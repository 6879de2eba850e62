import Mathlib.Data.List.Nodup
import RaggedTables.Proofs.Csv.Adding
import RaggedTables.Proofs.Csv.Alignment
import RaggedTables.Proofs.Csv.InPlace

/-! Runs of calls on a document that is changed in place. Every call comes to what the operation on
documents says: one that adds an entry or a value and fails leaves the document as it was, although
it may leave behind an entry that it had begun, and adding several objects keeps those before the
first that is refused. So whatever calls are made, every entry keeps a cell for each header. -/

namespace RaggedTables.CsvWorkspace

/-- The document lists entries that were begun, each once, and it could have been built by itself.
-/
structure Sound (w : CsvWorkspace) : Prop where
  begun : ∀ number ∈ w.listed, number < w.entries.length
  distinct : w.listed.Nodup
  built : w.document.Built

/-- After `w` comes `next`, which shows the document `doc`: what `w` lists is still listed in its
place. -/
structure Shows (w : CsvWorkspace) (doc : CsvDocument) (next : CsvWorkspace) : Prop where
  document : next.document = doc
  sound : next.Sound
  headers : next.headers = w.headers
  listed : w.listed <+: next.listed

/-- An action comes to a document and an outcome. -/
def Leads (w : CsvWorkspace) (x : Action Unit) (after : CsvDocument × Except Fault Unit) : Prop :=
  ∃ next, x.result w = (after.2, next) ∧ w.Shows after.1 next

/-- The document and the outcome of an operation that changes nothing where it fails. -/
def settled (doc : CsvDocument) : Except Fault CsvDocument → CsvDocument × Except Fault Unit
  | .ok next => (next, .ok ())
  | .error fault => (doc, .error fault)

/-- What a call makes of a document. -/
def Call.effect (doc : CsvDocument) : Call → CsvDocument × Except Fault Unit
  | .line cells => settled doc ((doc.addLine cells).map Prod.fst)
  | .object fields => settled doc ((doc.addObject fields).map Prod.fst)
  | .objects several => doc.addObjects several
  | .value index header v => settled doc (doc.addToEntry index header v)

theorem sound_holding {doc : CsvDocument} (built : doc.Built) : (holding doc).Sound := by
  have same : (holding doc).document = doc := by
    have entries : (List.range doc.entries.length).map
        (fun number => doc.entries.getD number default) = doc.entries := by
      apply List.ext_getElem
      · simp
      · intro i h1 h2
        simp [h2]
    simp only [holding, document, entries]
  exact ⟨fun number h => List.mem_range.mp h, List.nodup_range, same.symm ▸ built⟩

section Calls

variable {w : CsvWorkspace} (sound : w.Sound)
include sound

/-! ### Entries that are not listed -/

/-- An entry that is begun is not in the document, whatever it holds. -/
theorem document_withEntry (entry : CsvEntry) : (w.withEntry entry).document = w.document := by
  unfold document withEntry
  congr 1
  apply List.map_congr_left
  intro number hnumber
  simp [List.getD, List.getElem?_append_left (sound.begun number hnumber)]

theorem shows_refl : w.Shows w.document w := ⟨rfl, sound, rfl, List.prefix_rfl⟩

theorem shows_withEntry (entry : CsvEntry) : w.Shows w.document (w.withEntry entry) := by
  have same := document_withEntry sound entry
  refine ⟨same, ⟨fun number h => ?_, sound.distinct, same.symm ▸ sound.built⟩, rfl, List.prefix_rfl⟩
  have bound := sound.begun number h
  simp only [withEntry, List.length_append, List.length_singleton]
  omega

/-- Listing an entry that was just begun puts it at the end of the document. -/
theorem leads_enlist {x : Action Unit} {entry : CsvEntry} (built : (w.document.adding entry).Built)
    (h : x.result w = (enlist w.entries.length).result (w.withEntry entry)) :
    Leads w x (w.document.adding entry, .ok ()) := by
  rw [result_enlist] at h
  refine ⟨_, h, ?_⟩
  have same : document { w.withEntry entry with
      listed := (w.withEntry entry).listed ++ [w.entries.length] } = w.document.adding entry := by
    have old := congrArg CsvDocument.entries (document_withEntry sound entry)
    simp only [document, CsvDocument.adding, List.map_append] at old ⊢
    rw [old]
    simp [withEntry]
  refine ⟨same, ⟨fun number hnumber => ?_, ?_, same.symm ▸ built⟩, rfl, List.prefix_append _ _⟩
  · simp only [withEntry, List.mem_append, List.mem_singleton, List.length_append,
      List.length_singleton] at hnumber ⊢
    rcases hnumber with hnumber | rfl
    · have bound := sound.begun number hnumber
      omega
    · omega
  · refine List.nodup_append.mpr ⟨sound.distinct, by simp, fun a ha b hb => ?_⟩
    have bound := sound.begun a ha
    have last := List.mem_singleton.mp hb
    omega

/-! ### Lines and objects -/

theorem addLine_leads (cells : Value) :
    Leads w (addLine cells) ((Call.line cells).effect w.document) := by
  have step := w.document.addLine_eq cells
  rw [Call.effect, step]
  cases h : CsvEntry.ofValue w.headers cells with
  | ok entry =>
    have added : w.document.addLine cells = .ok (w.document.adding entry, entry) := by
      rw [step]
      exact congrArg _ h
    have run : (addLine cells).result w =
        (enlist w.entries.length).result (w.withEntry entry) := by
      simp only [addLine, result_bind, result_beginEntry, h]
    simpa [document, h, Except.map, settled] using leads_enlist sound (.line sound.built added) run
  | error fault =>
    have run : (addLine cells).result w = (.error fault, w) := by
      simp only [addLine, result_bind, result_beginEntry, h]
    simp only [document, h, Except.map, settled]
    exact ⟨w, run, shows_refl sound⟩

theorem addObject_leads (object : Value) :
    Leads w (addObject object) ((Call.object object).effect w.document) := by
  have step := w.document.addObject_eq object
  rw [Call.effect, step]
  rcases result_addObject w object with ⟨entry, h, run⟩ | ⟨fault, h, run | ⟨half, run⟩⟩
  · have added : w.document.addObject object = .ok (w.document.adding entry, entry) := by
      rw [step]
      exact congrArg _ h
    simpa [document, h, Except.map, settled] using
      leads_enlist sound (.object sound.built added) run
  · simp only [document, h, Except.map, settled]
    exact ⟨w, run, shows_refl sound⟩
  · simp only [document, h, Except.map, settled]
    exact ⟨_, run, shows_withEntry sound half⟩

omit sound in
/-- What one action leads to, and another from there, they lead to in a row. -/
theorem Leads.bind {x y : Action Unit} {doc : CsvDocument} {after : CsvDocument × Except Fault Unit}
    (first : Leads w x (doc, .ok ()))
    (second : ∀ next : CsvWorkspace, next.Sound → next.document = doc → Leads next y after) :
    Leads w (x >>= fun _ => y) after := by
  obtain ⟨next, hx, shown⟩ := first
  obtain ⟨last, hy, shown'⟩ := second next shown.sound shown.document
  refine ⟨last, ?_, shown'.document, shown'.sound, shown'.headers.trans shown.headers,
    shown.listed.trans shown'.listed⟩
  rw [result_bind, hx]
  exact hy

omit sound in
/-- Where an action fails, what comes after it plays no part. -/
theorem Leads.stop {x y : Action Unit} {doc : CsvDocument} {fault : Fault}
    (first : Leads w x (doc, .error fault)) : Leads w (x >>= fun _ => y) (doc, .error fault) := by
  obtain ⟨next, hx, shown⟩ := first
  refine ⟨next, ?_, shown⟩
  rw [result_bind, hx]

theorem addEach_leads (objects : List Value) :
    Leads w (addEach objects) (w.document.addEach objects) := by
  induction objects generalizing w with
  | nil => exact ⟨w, rfl, shows_refl sound⟩
  | cons object objects ih =>
    have first := addObject_leads sound object
    simp only [CsvDocument.addEach]
    cases h : w.document.addObject object with
    | error fault =>
      rw [Call.effect, h] at first
      exact first.stop
    | ok added =>
      rw [Call.effect, h] at first
      refine first.bind fun next hsound hdocument => ?_
      have rest := ih hsound
      rw [hdocument] at rest
      exact rest

theorem addObjects_leads (several : Value) :
    Leads w (addObjects several) ((Call.objects several).effect w.document) := by
  simp only [Call.effect, CsvDocument.addObjects]
  cases h : several.itemsOf with
  | error fault =>
    refine ⟨w, ?_, shows_refl sound⟩
    simp only [addObjects, result_bind, result_lift, h]
  | ok items =>
    obtain ⟨next, hnext, shown⟩ := addEach_leads sound items
    refine ⟨next, ?_, shown⟩
    simp only [addObjects, result_bind, result_lift, h, hnext]

/-! ### Values -/

/-- A listed entry that changes is the one entry of the document that changes. -/
theorem document_replace {i number : Nat} (place : w.listed[i]? = some number) (entry : CsvEntry) :
    (w.replace number entry).document =
      { w.document with entries := w.document.entries.set i entry } := by
  obtain ⟨hi, rfl⟩ := List.getElem?_eq_some_iff.mp place
  unfold document replace
  congr 1
  apply List.ext_getElem
  · simp
  intro j h1 h2
  have hj : j < w.listed.length := by simpa using h1
  simp only [List.getElem_map, List.getElem_set]
  by_cases hij : i = j
  · subst hij
    have bound := sound.begun _ (List.getElem_mem hi)
    simp [bound]
  · have hne : w.listed[i] ≠ w.listed[j] := fun e =>
      hij ((List.Nodup.getElem_inj_iff sound.distinct).mp e)
    simp [hij, List.getD, List.getElem?_set_ne hne]

theorem addToEntry_leads (index : Int) (header v : Value) :
    Leads w (addToEntry index header v) ((Call.value index header v).effect w.document) := by
  have count : w.document.entries.length = w.listed.length := by simp [document]
  have lost (h : ((CsvDocument.place? w.listed.length index).bind fun i => w.listed[i]?) = none) :
      (addToEntry index header v).result w = (.error .outOfRange, w) := by
    simp only [addToEntry, result_bind, result_get, h]
    rfl
  have start {number : Nat}
      (h : ((CsvDocument.place? w.listed.length index).bind fun i => w.listed[i]?) = some number) :
      (addToEntry index header v).result w = (addInPlace number header v).result w := by
    simp only [addToEntry, result_bind, result_get, h]
  simp only [Call.effect, CsvDocument.addToEntry, count]
  cases hplace : CsvDocument.place? w.listed.length index with
  | none =>
    rw [hplace] at lost
    exact ⟨w, lost rfl, shows_refl sound⟩
  | some i =>
    rw [hplace, Option.bind_some] at lost start
    cases hi : w.listed[i]? with
    | none =>
      have missing : w.document.entries[i]? = none := by simp [document, hi]
      simp only [missing]
      exact ⟨w, lost hi, shows_refl sound⟩
    | some number =>
      let entry := w.entries.getD number default
      have found : w.document.entries[i]? = some entry := by simp [document, hi, entry]
      have run := (start hi).trans (result_addInPlace number header v w)
      simp only [found]
      cases hadd : entry.add header v with
      | error fault =>
        rw [hadd] at run
        exact ⟨w, run, shows_refl sound⟩
      | ok next =>
        have same := document_replace sound hi next
        have added :
            w.document.addToEntry index header v = .ok (w.replace number next).document := by
          simp only [CsvDocument.addToEntry, count, hplace, found, hadd, ok_bind, same]
          rfl
        rw [hadd] at run
        refine ⟨_, run, same,
          ⟨fun other hother => ?_, sound.distinct, .value sound.built added⟩, rfl,
          List.prefix_rfl⟩
        simpa [replace] using sound.begun other hother

/-! ### Runs -/

theorem perform_leads (call : Call) : Leads w call.perform (call.effect w.document) := by
  cases call with
  | line cells => exact addLine_leads sound cells
  | object fields => exact addObject_leads sound fields
  | objects several => exact addObjects_leads sound several
  | value index header v => exact addToEntry_leads sound index header v

/-- What one call keeps, a run of calls keeps. -/
theorem run_keeps (calls : List Call) :
    (w.run calls).Sound ∧ (w.run calls).headers = w.headers ∧
      w.listed <+: (w.run calls).listed := by
  induction calls generalizing w with
  | nil => exact ⟨sound, rfl, List.prefix_rfl⟩
  | cons call calls ih =>
    obtain ⟨next, hnext, shown⟩ := perform_leads sound call
    obtain ⟨hsound, headers, listed⟩ := ih shown.sound
    have step : w.run (call :: calls) = next.run calls := by
      show CsvWorkspace.run (call.perform.result w).2 calls = _
      rw [hnext]
    rw [step]
    exact ⟨hsound, headers.trans shown.headers, shown.listed.trans listed⟩

end Calls

/-- Adding the object would put `entry` at the end of the document. -/
def Takes (w : CsvWorkspace) (object : Value) (entry : CsvEntry) : Prop :=
  ((addObject object).result w).1 = .ok () ∧
    ((addObject object).result w).2.document = w.document.adding entry

theorem takes_of_ofObject {w : CsvWorkspace} (sound : w.Sound) {object : Value} {entry : CsvEntry}
    (h : CsvEntry.ofObject w.document.headers object = .ok entry) : w.Takes object entry := by
  obtain ⟨next, hnext, shown⟩ := addObject_leads sound object
  have effect : (Call.object object).effect w.document = (w.document.adding entry, .ok ()) := by
    rw [Call.effect, CsvDocument.addObject_eq, h]
    rfl
  rw [effect] at hnext shown
  unfold Takes
  rw [hnext]
  exact ⟨rfl, shown.document⟩

/-- Adding several objects has added those before the first that is refused, each as it would be
added by itself, and fails as that one does; if there are no objects to add, it has added none. -/
def StopsAt (w : CsvWorkspace) (several : Value) (fault : Fault) : Prop :=
  ∃ taken entries, List.Forall₂ w.Takes taken entries ∧
    ((addObjects several).result w).2.document =
      { w.document with entries := w.document.entries ++ entries } ∧
    (several.itemsOf = .error fault ∧ taken = [] ∨
      ∃ refused rest, several.itemsOf = .ok (taken ++ refused :: rest) ∧
        ((addObject refused).result w).1 = .error fault)

theorem stopsAt_of_error {w : CsvWorkspace} (sound : w.Sound) {several : Value} {fault : Fault}
    (h : ((addObjects several).result w).1 = .error fault) : w.StopsAt several fault := by
  obtain ⟨next, hnext, shown⟩ := addObjects_leads sound several
  unfold StopsAt
  rw [hnext] at h ⊢
  simp only [shown.document]
  simp only [Call.effect, CsvDocument.addObjects] at h ⊢
  cases hitems : several.itemsOf with
  | error other =>
    rw [hitems] at h
    obtain rfl := Except.error.inj h
    exact ⟨[], [], .nil, by simp, .inl ⟨rfl, rfl⟩⟩
  | ok items =>
    simp only [hitems] at h ⊢
    obtain ⟨taken, entries, each, document, outcome⟩ := w.document.addEach_spec items
    refine ⟨taken, entries, each.imp fun _ _ => takes_of_ofObject sound, document, .inr ?_⟩
    rcases outcome with ⟨-, hok⟩ | ⟨refused, rest, other, rfl, hrefused, herror⟩
    · rw [hok] at h
      cases h
    · obtain rfl := Except.error.inj (herror.symm.trans h)
      refine ⟨refused, rest, rfl, ?_⟩
      obtain ⟨_, hone, -⟩ := addObject_leads sound refused
      rw [hone, Call.effect, CsvDocument.addObject_eq, hrefused]
      rfl

theorem settled_of_error {doc : CsvDocument} {outcome : Except Fault CsvDocument} {fault : Fault}
    (h : (settled doc outcome).2 = .error fault) : (settled doc outcome).1 = doc := by
  cases outcome with
  | ok next => cases h
  | error other => rfl

/-- A call that adds one thing changes nothing in the document where it fails. -/
theorem document_of_error {w : CsvWorkspace} (sound : w.Sound) {call : Call} {fault : Fault}
    (one : ∀ several, call ≠ .objects several) (h : (call.perform.result w).1 = .error fault) :
    (call.perform.result w).2.document = w.document := by
  obtain ⟨next, hnext, shown⟩ := perform_leads sound call
  rw [hnext] at h ⊢
  refine shown.document.trans ?_
  cases call with
  | objects several => exact absurd rfl (one several)
  | line cells => exact settled_of_error h
  | object fields => exact settled_of_error h
  | value index header v => exact settled_of_error h

/-- However a document is built and whatever calls are made on it, failing ones among them: every
entry has a cell for each header and has rows, all rows have a field for each header, and what is
listed stays listed in its place. From there a call that adds one thing and fails leaves the
document as it was, adding several objects keeps those before the first that is refused, and every
call comes to what the operation on documents says. -/
theorem run_documents {start : CsvDocument} (built : start.Built) (calls : List Call)
    {w : CsvWorkspace} (ran : (holding start).run calls = w) :
    w.document.headers = start.headers ∧
      (∀ entry ∈ w.document.entries, entry.AlignedWith start.headers ∧
        ∃ rows, entry.outputRows.outcome = .ok rows) ∧
      (∃ rows, w.document.rows.outcome = .ok rows ∧
        ∀ row ∈ rows, row.length = start.headers.length) ∧
      (∀ more, w.listed <+: (w.run more).listed) ∧
      (∀ (call : Call) (fault : Fault), (∀ several, call ≠ .objects several) →
        (call.perform.result w).1 = .error fault →
        (call.perform.result w).2.document = w.document) ∧
      (∀ several fault, ((addObjects several).result w).1 = .error fault →
        w.StopsAt several fault) ∧
      ∀ call : Call, Leads w call.perform (call.effect w.document) := by
  obtain ⟨sound, headers, -⟩ := run_keeps (sound_holding built) calls
  rw [ran] at sound headers
  have aligned : ∀ entry ∈ w.document.entries, entry.AlignedWith start.headers := by
    have := sound.built.aligned
    rw [CsvDocument.Aligned, show w.document.headers = start.headers from headers] at this
    exact this
  obtain ⟨blocks, hblocks, hrows⟩ := sound.built.aligned.rows
  refine ⟨headers, fun entry hentry => ⟨aligned entry hentry, ?_⟩, ⟨_, hrows, fun row hrow => ?_⟩,
    fun more => (run_keeps sound more).2.2, fun call fault one h => document_of_error sound one h,
    fun several fault h => stopsAt_of_error sound h, fun call => perform_leads sound call⟩
  · have same := aligned entry hentry
    obtain ⟨rows, hexpand, -⟩ := CsvEntry.expand_spec (same.headers ▸ same.cells)
    exact ⟨rows, hexpand⟩
  · rw [← show w.document.headers = start.headers from headers]
    exact sound.built.aligned.width hrows row hrow

/-- Calls of which three fail: an object that holds a mapping under its second key, a second object
in a row of them, and a value under a header that is not there. -/
def unevenCalls : List Call :=
  [.line (.list [.int 1, .list [.int 2, .int 3]]),
    .object (.map [(.text "b", .int 4), (.text "a", .map [])]),
    .objects (.list [.map [(.text "b", .null), (.text "a", .int 5)], .int 6, .null]),
    .value (-1) (.text "c") (.int 7), .value (-2) (.text "a") (.int 8)]

/-- After these calls there are two entries in the document, and a third that was begun and given
up. -/
theorem run_documents_uneven :
    ∃ start, CsvDocument.ofValues (.list [.text "a", .text "b"]) .null = .ok start ∧ start.Built ∧
      ((holding start).run unevenCalls).document.entries.map CsvEntry.cells =
        [[.list [.int 1, .int 8], .list [.int 2, .int 3]], [.int 5, .null]] ∧
      ((holding start).run unevenCalls).entries.length = 3 ∧
      ∃ rows, ((holding start).run unevenCalls).document.rows.outcome = .ok rows ∧
        ∀ row ∈ rows, row.length = start.headers.length := by
  have made : CsvDocument.ofValues (.list [.text "a", .text "b"]) .null =
      .ok ⟨[.text "a", .text "b"], {}, []⟩ := rfl
  obtain ⟨-, -, rows, -⟩ := run_documents (.new made) unevenCalls rfl
  exact ⟨_, made, .new made, rfl, rfl, rows⟩

end RaggedTables.CsvWorkspace
