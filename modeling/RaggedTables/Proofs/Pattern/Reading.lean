import RaggedTables.Proofs.Pattern.Standing

/-! What the reader of patterns does with a text, whatever the text. A text that it reads to the end
is one of whole tokens, so it does not end in a lone backslash; and where it stops with anything but
a problem, the text shows why. Each function of the reader keeps this, from the escapes to the
alternatives. -/

namespace RaggedTables.Pattern

namespace Reader

variable {cs before : List Char}

/-! ### Names and groups -/

theorem keeps_takeUntil {terminator : Char} {what : String} {fuel : Nat} {taken : List Char} :
    Keeps cs (takeUntil terminator what fuel taken) := by
  induction fuel generalizing taken with
  | zero => exact keeps_pure
  | succ fuel ih =>
    refine .bind keeps_take fun token => ?_
    split
    · split <;> exact runs_fail
    · split
      · split
        · exact runs_fail
        · exact keeps_pure
      · exact ih

theorem keeps_name {terminator : Char} {what : String} : Keeps cs (name terminator what) :=
  .read fun _ => keeps_takeUntil

theorem keeps_groupName {terminator : Char} : Keeps cs (groupName terminator) := by
  refine .bind keeps_name fun _ => ?_
  split
  · exact keeps_pure
  · exact runs_fail

theorem keeps_isClosed {index : Nat} : Keeps cs (isClosed index) := .read fun _ => keeps_pure

theorem keeps_checkLookbehind {index : Nat} : Keeps cs (checkLookbehind index) := by
  unfold checkLookbehind
  refine .read fun s => ?_
  dsimp only
  split
  · exact keeps_pure
  · exact .bind keeps_isClosed fun _ => .check (fun _ => runs_fail) (.checkLast runs_fail)

theorem keeps_openGroup {name : Option String} : Keeps cs (openGroup name) := by
  unfold openGroup
  refine .get fun s ⟨before, hs⟩ => ?_
  dsimp only
  split
  · exact .bind (runs_set fun _ _ => ⟨before, { hs with }⟩) fun _ => keeps_pure
  · split
    · exact .bind runs_fail fun _ => keeps_pure
    · exact .bind (runs_set fun _ _ => ⟨before, { hs with }⟩) fun _ => keeps_pure

theorem keeps_closeGroup {index : Nat} {body : Expr} : Keeps cs (closeGroup index body) :=
  runs_modify fun _ ⟨before, hs⟩ => ⟨before, { hs with }⟩

/-! ### Escapes -/

theorem keeps_hexEscape {c : Char} {count : Nat} : Keeps cs (hexEscape c count) := by
  unfold hexEscape
  refine .bind keeps_takeWhile fun digits => .check (fun _ => runs_fail) ?_
  dsimp only
  split
  · exact keeps_pure
  · exact runs_fail

theorem keeps_spelledCode? {c : Char} : Keeps cs (spelledCode? c) := by
  unfold spelledCode?
  split
  · exact .bind keeps_hexEscape fun _ => keeps_pure
  · exact .bind keeps_hexEscape fun _ => keeps_pure
  · exact .bind keeps_hexEscape fun _ => keeps_pure
  · refine .bind keeps_accept fun _ => .check (fun _ => runs_fail) (.bind keeps_name fun _ => ?_)
    split
    · exact keeps_pure
    · exact runs_fail
  · exact keeps_pure

theorem keeps_plainEscape {c : Char} : Keeps cs (plainEscape c) := by
  unfold plainEscape
  split
  · exact runs_fail
  · exact keeps_pure

theorem keeps_classEscape {c : Char} : Keeps cs (classEscape c) := by
  unfold classEscape
  dsimp only
  split
  · exact keeps_pure
  split
  · exact keeps_pure
  refine .bind keeps_spelledCode? fun spelled => ?_
  split
  · exact keeps_pure
  split
  · refine .bind keeps_takeWhile fun digits => ?_
    split
    · exact keeps_pure
    · exact runs_fail
  · exact .check (fun _ => runs_fail) (.bind keeps_plainEscape fun _ => keeps_pure)

theorem keeps_numberEscape {c : Char} : Keeps cs (numberEscape c) := by
  unfold numberEscape
  extract_lets reference
  have keeps_reference (digits : List Char) : Keeps cs (reference digits) := by
    dsimp only [reference]
    refine .read fun s => ?_
    split
    · exact .bind keeps_isClosed fun _ => .check (fun _ => runs_fail)
        (.bind keeps_checkLookbehind fun _ => keeps_pure)
    · exact runs_fail
  refine .read fun s => ?_
  split
  · split
    · refine .bind keeps_load fun _ => .read fun s => ?_
      split
      · split
        · refine .bind keeps_load fun _ => ?_
          dsimp only
          split
          · exact keeps_pure
          · exact runs_fail
        · exact keeps_reference _
      · exact keeps_reference _
    · exact keeps_reference _
  · exact keeps_reference _

theorem keeps_escape {c : Char} : Keeps cs (escape c) := by
  unfold escape
  split
  · exact keeps_pure
  split
  · exact keeps_pure
  split
  · exact keeps_pure
  refine .bind keeps_spelledCode? fun spelled => ?_
  split
  · exact keeps_pure
  split
  · exact .bind keeps_takeWhile fun _ => keeps_pure
  split
  · exact keeps_numberEscape
  · exact .bind keeps_plainEscape fun _ => keeps_pure

/-! ### Classes -/

theorem keeps_classMember {token : List Char} : Keeps cs (classMember token) := by
  unfold classMember
  split
  · exact keeps_classEscape
  · exact keeps_pure
  · exact keeps_pure

theorem keeps_classMembers {start fuel : Nat} {items : List ClassItem} :
    Keeps cs (classMembers start fuel items) := by
  induction fuel generalizing items with
  | zero => exact keeps_pure
  | succ fuel ih =>
    unfold classMembers
    dsimp only
    refine .bind keeps_take fun this => .check (fun _ => runs_failAt) ?_
    split
    · exact keeps_pure
    refine .bind keeps_classMember fun first => .bind keeps_accept fun ranged => ?_
    split
    · refine .bind keeps_take fun that => .check (fun _ => runs_failAt) ?_
      split
      · exact keeps_pure
      refine .bind keeps_classMember fun last => ?_
      split
      · split
        · exact runs_fail
        · exact ih
      · exact runs_fail
    · exact ih

theorem keeps_characterClass : Keeps cs characterClass := by
  unfold characterClass
  dsimp only
  refine .bind keeps_tell fun _ => .bind keeps_accept fun negated => .read fun s =>
    .bind keeps_classMembers fun items => ?_
  split <;> exact keeps_pure

/-! ### Repetition -/

/-- The counts of a repetition are read, with their bounds. -/
def CountsRead (cs before low high : List Char) (s : ReaderState) : Prop :=
  ∃ counts, (∀ P : List Char → Prop, P low ∨ P high → HasBound P counts) ∧
    Stands cs (before ++ '\x7b' :: counts) s

theorem Stands.writesBound {counts : List Char} {P : List Char → Prop} {s : ReaderState}
    (h : Stands cs (before ++ '\x7b' :: counts ++ ['\x7d']) s) (hcounts : HasBound P counts) :
    WritesBound P cs := by
  obtain ⟨after, hcs⟩ := h.read
  exact ⟨before, counts, s.next ++ after, by simpa using hcs.symm, hcounts⟩

theorem runs_bound {counts digits : List Char}
    (has : ∀ P : List Char → Prop, P digits → HasBound P counts) :
    Runs cs (Stands cs (before ++ '\x7b' :: counts ++ ['\x7d'])) (bound digits) fun _ =>
      Stands cs (before ++ '\x7b' :: counts ++ ['\x7d']) := by
  unfold bound
  dsimp only
  refine .check (fun hlong s hs => ?_) (.check (fun hlarge s hs => ?_) (.pure fun _ => id))
  · exact .longCount hlong (hs.writesBound (has _ rfl))
  · exact .hugeRepeat (hs.writesBound (has _ hlarge))

theorem runs_braceCounts :
    Runs cs (Stands cs (before ++ ['\x7b'])) braceCounts fun _ => Sound cs := by
  unfold braceCounts
  refine .of fun _ hstands => .bind runs_tell fun start => .assume ?_
  rintro rfl
  refine .read fun s => ?_
  extract_lets
  split
  · exact .pure fun _ hs => hs.sound
  refine .read fun s => .bind runs_takeWhile fun low => .assume fun hlow => ?_
  extract_lets finish
  have keeps_finish (high : List Char) :
      Runs cs (CountsRead cs before low high) (finish high) fun _ => Sound cs := by
    dsimp only [finish]
    refine .exists fun counts => .assume fun has => .bind runs_accept fun closed => ?_
    cases closed with
    | false =>
      refine .bind (Q := fun _ => Sound cs) ?_ fun _ => keeps_pure
      refine (runs_seek ?_ hstands.whole).mono (fun _ hs => hs.sound) fun _ _ hs => hs.sound
      exact (List.prefix_append ..).trans hstands.read
    | true =>
      simp only [Bool.not_true, Bool.false_eq_true, if_false, if_true]
      refine .bind (runs_bound fun P hlow => has P (.inl hlow)) fun least => ?_
      split
      · exact .pure fun _ hs => hs.sound
      · exact .bind (runs_bound fun P hhigh => has P (.inr hhigh)) fun most =>
          .check (fun _ => runs_failAt) (.pure fun _ hs => hs.sound)
  refine .bind runs_accept fun between => ?_
  cases between with
  | true =>
    refine .bind (runs_takeWhile.mono (fun _ => id) ?_) fun high => keeps_finish high
    rintro high s ⟨hhigh, hs⟩
    exact ⟨low ++ ',' :: high, fun P => .between hlow hhigh, by simpa using hs⟩
  | false =>
    refine .bind (.pure ?_) fun high => keeps_finish high
    exact fun s hs => ⟨low, fun P holds => .exactly hlow (or_self_iff.mp holds), by simpa using hs⟩

theorem keeps_repeatable {items : List Expr} {place : Nat} : Keeps cs (repeatable items place) := by
  unfold repeatable
  split
  · exact runs_failAt
  · exact runs_failAt
  · exact runs_failAt
  · exact keeps_pure

theorem keeps_greed : Keeps cs greed := by
  unfold greed
  refine .bind keeps_accept fun reluctant => ?_
  split
  · exact keeps_pure
  refine .bind keeps_accept fun possessive => ?_
  split <;> exact keeps_pure

/-! ### Comments and conditions -/

theorem keeps_skipLine {fuel : Nat} : Keeps cs (skipLine fuel) := by
  induction fuel with
  | zero => exact keeps_pure
  | succ fuel ih =>
    unfold skipLine
    refine .bind keeps_take fun token => ?_
    split
    · exact keeps_pure
    · exact ih

theorem keeps_skipComment {start fuel : Nat} : Keeps cs (skipComment start fuel) := by
  induction fuel with
  | zero => exact keeps_pure
  | succ fuel ih =>
    unfold skipComment
    dsimp only
    refine .read fun s => .check (fun _ => runs_failAt) (.bind keeps_take fun token => ?_)
    split
    · exact keeps_pure
    · exact ih

theorem keeps_close {start : Nat} : Keeps cs (close start) :=
  .bind keeps_accept fun _ => .checkLast runs_failAt

theorem keeps_conditionGroup : Keeps cs conditionGroup := by
  unfold conditionGroup
  dsimp only
  refine .bind keeps_name fun name => ?_
  split
  · refine .read fun s => ?_
    split
    · exact keeps_pure
    · exact runs_fail
  · split
    · exact runs_fail
    · refine .check (fun _ => runs_fail)
        (.check (fun _ => runs_fail) (.check (fun _ => runs_fail) ?_))
      refine .bind keeps_tell fun place => ?_
      refine .bind (runs_modify ?_) fun _ => keeps_pure
      rintro s ⟨before, hs⟩
      split
      · exact hs.sound
      · exact ⟨before, { hs with }⟩

theorem keeps_checkConditions {conditions : List (Nat × Nat)} :
    Keeps cs (checkConditions conditions) := by
  induction conditions with
  | nil => exact keeps_pure
  | cons condition rest ih =>
    unfold checkConditions
    dsimp only
    exact .read fun s => .check (fun _ => runs_failAt) ih

theorem keeps_namedOpening : Keeps cs namedOpening := by
  unfold namedOpening
  dsimp only
  refine .bind keeps_accept fun captures => ?_
  split
  · exact .bind keeps_groupName fun _ => keeps_pure
  refine .bind keeps_accept fun refers => ?_
  split
  · refine .bind keeps_groupName fun name => .read fun s => ?_
    split
    · exact runs_fail
    · exact .bind keeps_isClosed fun _ => .check (fun _ => runs_fail)
        (.bind keeps_checkLookbehind fun _ => keeps_pure)
  · exact .bind keeps_take fun token => .check (fun _ => runs_fail) runs_fail

/-! ### Flags -/

theorem letter_of_ascii {c : Char} {flag : Flags} (h : Flags.ofLetter? c = some flag)
    (ascii : flag.ascii = true) : c = 'a' := by
  unfold Flags.ofLetter? at h
  split at h <;> cases h <;> simp_all

theorem letter_of_unicode {c : Char} {flag : Flags} (h : Flags.ofLetter? c = some flag)
    (unicode : flag.unicode = true) : c = 'u' := by
  unfold Flags.ofLetter? at h
  split at h <;> cases h <;> simp_all

/-- Flags that are turned on by letters. -/
structure Spelled (letters : List Char) (on : Flags) : Prop where
  known : ∀ c ∈ letters, (Flags.ofLetter? c).isSome = true
  ascii : on.ascii = true → 'a' ∈ letters
  unicode : on.unicode = true → 'u' ∈ letters

theorem spelled_nil : Spelled [] {} := ⟨by simp, by simp, by simp⟩

theorem Spelled.append {letters : List Char} {on flag : Flags} (h : Spelled letters on) {c : Char}
    (hc : Flags.ofLetter? c = some flag) : Spelled (letters ++ [c]) (on.union flag) where
  known d hd := by
    rcases List.mem_append.mp hd with hd | hd
    · exact h.known d hd
    · simp [List.mem_singleton.mp hd, hc]
  ascii hon := by
    rcases Bool.or_eq_true_iff.mp hon with hon | hon
    · simp [h.ascii hon]
    · simp [letter_of_ascii hc hon]
  unicode hon := by
    rcases Bool.or_eq_true_iff.mp hon with hon | hon
    · simp [h.unicode hon]
    · simp [letter_of_unicode hc hon]

theorem Spelled.flagsSet {letters : List Char} {on : Flags} (h : Spelled letters on)
    (read : before ++ '(' :: '?' :: letters ++ [')'] <+: cs) : FlagsSet cs on := by
  obtain ⟨after, hcs⟩ := read
  have hcs : cs = before ++ '(' :: '?' :: letters ++ ')' :: after := by simpa using hcs.symm
  exact ⟨fun hon => ⟨before, letters, after, hcs, h.ascii hon, h.known⟩,
    fun hon => ⟨before, letters, after, hcs, h.unicode hon, h.known⟩⟩

theorem FlagsSet.union {a b : Flags} (ha : FlagsSet cs a) (hb : FlagsSet cs b) :
    FlagsSet cs (a.union b) where
  ascii h := (Bool.or_eq_true_iff.mp h).elim ha.ascii hb.ascii
  unicode h := (Bool.or_eq_true_iff.mp h).elim ha.unicode hb.unicode

/-- The flags that a parenthesis turns on are read, with the character after them. -/
def FlagsRead (cs before : List Char) (result : Flags × Char) (s : ReaderState) : Prop :=
  ∃ letters, Spelled letters result.1 ∧ Stands cs (before ++ '(' :: '?' :: letters ++ [result.2]) s

/-- A character that may stand among the letters of flags. -/
def IsFlag (c : Char) : Prop := (Flags.ofLetter? c).isSome = true ∨ c = 'L'

theorem isFlag_of_or {c : Char} (h : ((Flags.ofLetter? c).isSome || c == 'L') = true) :
    IsFlag c := by
  simpa [IsFlag] using h

/-- Each letter that is read makes the text before the reader longer, so the fuel lasts. -/
theorem runs_flagsOn {fuel : Nat} {letters : List Char} {c : Char} {on : Flags} (hc : IsFlag c)
    (hon : Spelled letters on) (enough : cs.length ≤ before.length + letters.length + 2 + fuel) :
    Runs cs (Stands cs (before ++ '(' :: '?' :: letters ++ [c])) (flagsOn fuel [c] on)
      (FlagsRead cs before) := by
  induction fuel generalizing letters c on with
  | zero =>
    intro s hs
    have hlength := hs.read.length_le
    simp only [List.length_append, List.length_cons, List.length_nil] at hlength
    omega
  | succ fuel ih =>
    unfold flagsOn
    dsimp only
    rcases hc with hc | rfl
    · obtain ⟨flag, hflag⟩ := Option.isSome_iff_exists.mp hc
      rw [hflag, Option.getD_some]
      have hmore := hon.append hflag
      refine .check (fun _ => runs_fail)
        (.check (fun _ => runs_fail) (.bind runs_take fun after => ?_))
      split
      · exact runs_fail
      · split
        · exact .pure fun s hs => ⟨letters ++ [c], hmore, by simpa using hs⟩
        · split
          · rename_i hd
            refine (ih (isFlag_of_or hd) hmore ?_).mono ?_ fun _ _ => id
            · rw [List.length_append, List.length_singleton]
              omega
            · exact fun s hs => by simpa using hs
          · exact runs_fail
      · exact runs_fail
    · exact .stop runs_fail

theorem keeps_flagsOff {fuel : Nat} {token : List Char} {off : Flags} :
    Keeps cs (flagsOff fuel token off) := by
  induction fuel generalizing token off with
  | zero => exact keeps_pure
  | succ fuel ih =>
    unfold flagsOff
    dsimp only
    split
    · refine .check (fun _ => runs_fail) (.bind keeps_take fun after => ?_)
      split
      · exact runs_fail
      · split
        · exact keeps_pure
        · split
          · exact ih
          · exact runs_fail
      · exact runs_fail
    · exact keeps_pure

theorem runs_inlineFlags {c : Char} (hc : IsFlag c ∨ c = '-') :
    Runs cs (Stands cs (before ++ ['('] ++ ['?'] ++ [c])) (inlineFlags c) fun _ => Sound cs := by
  unfold inlineFlags
  refine .get fun s hs => ?_
  extract_lets fuel finish
  have keeps_finish (result : Flags × Char) :
      Runs cs (FlagsRead cs before result) (finish result) fun _ => Sound cs := by
    obtain ⟨on, stop⟩ := result
    dsimp only [finish]
    split
    · rename_i hstop
      obtain rfl : stop = ')' := by simpa using hstop
      refine .bind (runs_modify ?_) fun _ => keeps_pure
      rintro s ⟨letters, hspelled, hs⟩
      have hread := (List.prefix_append ..).trans hs.read
      exact ⟨_, { hs with flags := hs.flags.union (hspelled.flagsSet hread) }⟩
    · suffices h : Keeps cs _ from h.mono (fun _ ⟨_, _, hs⟩ => hs.sound) fun _ _ => id
      refine .check (fun _ => runs_fail) ?_
      split
      · refine .bind keeps_take fun token => ?_
        split
        · exact .stop runs_fail
        · split
          · exact .bind keeps_flagsOff fun off =>
              .check (fun _ => runs_fail) (.check (fun _ => runs_fail) keeps_pure)
          · exact .stop runs_fail
        · exact .stop runs_fail
      · exact .bind keeps_pure fun off =>
          .check (fun _ => runs_fail) (.check (fun _ => runs_fail) keeps_pure)
  split
  · rename_i hminus
    obtain rfl : c = '-' := by simpa using hminus
    refine .bind (.pure ?_) keeps_finish
    rintro _ rfl
    exact ⟨[], spelled_nil, by simpa using hs⟩
  · rename_i hminus
    have hflag : IsFlag c := hc.resolve_right (by simpa using hminus)
    refine .bind ((runs_flagsOn hflag spelled_nil ?_).mono ?_ fun _ _ => id) keeps_finish
    · simp only [fuel, hs.text, List.size_toArray]
      omega
    · rintro _ rfl
      simpa using hs

theorem runs_opening {start : Nat} {atStart : Bool} :
    Runs cs (Stands cs (before ++ ['('])) (opening start atStart) fun _ => Sound cs := by
  unfold opening
  refine .bind runs_accept fun extended => ?_
  cases extended with
  | false => exact .fromPlace keeps_pure
  | true =>
    refine .bind runs_take fun token => ?_
    simp only [if_true]
    split
    · exact runs_fail
    · exact .fromPlace keeps_namedOpening
    · exact .fromPlace keeps_pure
    · exact .fromPlace (.read fun s => .bind keeps_skipComment fun _ => keeps_pure)
    · exact .fromPlace keeps_pure
    · exact .fromPlace keeps_pure
    · refine .fromPlace (.bind keeps_take fun token => ?_)
      split
      · exact runs_fail
      · exact keeps_pure
      · exact keeps_pure
      · exact runs_fail
    · exact .fromPlace keeps_pure
    · exact .fromPlace keeps_pure
    · split
      · rename_i c _ _ _ _ _ _ _ _ hc
        have hc : IsFlag c ∨ c = '-' := by simpa [IsFlag] using hc
        refine .bind (runs_inlineFlags hc) fun flags => ?_
        split
        · exact keeps_pure
        · split
          · exact keeps_pure
          · exact runs_failAt
      · exact runs_fail
    · exact runs_fail

/-! ### Sequences and alternatives -/

theorem keeps_construct {alternatives : Bool → Reader Expr} {branch : Reader Expr}
    (keeps_alternatives : ∀ verbose, Keeps cs (alternatives verbose))
    (keeps_branch : Keeps cs branch)
    {verbose : Bool} {place : Nat} (kind : Opening) :
    Keeps cs (construct alternatives branch verbose place kind) := by
  match kind with
  | .nothing => exact keeps_pure
  | .reference index => exact keeps_pure
  | .look behind negated =>
    exact .read fun s => .also (runs_modify fun _ ⟨before, hs⟩ => ⟨before, { hs with }⟩)
      (.bind (keeps_alternatives _) fun _ =>
        .also (runs_modify fun _ ⟨before, hs⟩ => ⟨before, { hs with }⟩)
          (.bind keeps_close fun _ => keeps_pure))
  | .conditional =>
    refine .bind keeps_conditionGroup fun _ => .bind keeps_checkLookbehind fun _ =>
      .bind keeps_branch fun yes => .bind keeps_accept fun branches => ?_
    split
    · exact .bind keeps_branch fun no => .read fun s => .check (fun _ => runs_fail)
        (.bind keeps_pure fun _ => .bind keeps_close fun _ => keeps_pure)
    · exact .bind keeps_pure fun _ => .bind keeps_close fun _ => keeps_pure
  | .atomic => exact .bind (keeps_alternatives _) fun _ => .bind keeps_close fun _ => keeps_pure
  | .scoped on off =>
    exact .bind (keeps_alternatives _) fun _ => .bind keeps_close fun _ => keeps_pure
  | .capture name =>
    exact .bind keeps_openGroup fun _ => .bind (keeps_alternatives _) fun _ =>
      .bind keeps_close fun _ => .bind keeps_closeGroup fun _ => keeps_pure

theorem runs_quantifier {c : Char} {quantifier : Reader Quantifier}
    (h : quantifier? c = some quantifier) :
    Runs cs (Stands cs (before ++ [c])) quantifier fun _ => Sound cs := by
  unfold quantifier? at h
  split at h <;> cases h
  · exact .fromPlace keeps_pure
  · exact .fromPlace keeps_pure
  · exact .fromPlace keeps_pure
  · exact runs_braceCounts

/-- With some fuel the readers of alternatives and of sequences keep to the tokens. -/
structure KeepsBodies (cs : List Char) (fuel : Nat) : Prop where
  alternatives {outer verbose read} : Keeps cs (alternatives outer verbose fuel read)
  sequence {first verbose items} : Keeps cs (sequence first verbose fuel items)

variable {fuel : Nat}

theorem KeepsBodies.alternatives_succ (bodies : KeepsBodies cs fuel) {outer verbose : Bool}
    {read : List Expr} : Keeps cs (Reader.alternatives outer verbose (fuel + 1) read) := by
  unfold Reader.alternatives
  extract_lets rest
  have keeps_rest (inner : Bool) : Keeps cs (rest inner) := by
    refine .bind bodies.sequence fun item => .bind keeps_accept fun more => ?_
    split
    · exact bodies.alternatives
    · exact keeps_pure
  split
  · exact .read fun s => .bind keeps_pure keeps_rest
  · exact .bind keeps_pure keeps_rest

/-- A mark is a quantifier with an item before it, or it stands for itself. -/
theorem KeepsBodies.sequence_succ (bodies : KeepsBodies cs fuel) {first verbose : Bool}
    {items : List Expr} : Keeps cs (Reader.sequence first verbose (fuel + 1) items) := by
  unfold Reader.sequence
  dsimp only
  refine .get fun s ⟨before, hs⟩ => ?_
  generalize hnext : s.next = next
  split
  · refine .pure ?_
    rintro _ rfl
    exact hs.sound
  refine .bind (Q := fun _ now => now = s) (fun _ h => h) fun place => ?_
  refine .bind (Q := fun _ => Stands cs (before ++ next)) ?_ fun _ => ?_
  · refine runs_load_next.mono ?_ fun _ _ => id
    rintro _ rfl
    exact ⟨hs, hnext⟩
  have goesOn {first verbose items} : Keeps cs (Reader.sequence first verbose fuel items) :=
    bodies.sequence
  split
  · rename_i c _
    split
    · exact .fromPlace goesOn
    split
    · exact .fromPlace (.read fun s => .bind keeps_skipLine fun _ => goesOn)
    split
    · exact .fromPlace (.bind keeps_characterClass fun _ => goesOn)
    · exact .fromPlace goesOn
    · exact .fromPlace goesOn
    · exact .fromPlace goesOn
    · refine .bind runs_opening fun kind => ?_
      refine .bind (keeps_construct (fun _ => bodies.alternatives) goesOn kind) fun item => ?_
      split
      · exact .read fun s => goesOn
      · exact goesOn
    · split
      · exact .fromPlace goesOn
      · rename_i quantifier hquantifier
        refine .bind (runs_quantifier hquantifier) fun counts => ?_
        split
        · exact goesOn
        · exact .bind keeps_repeatable fun _ => .bind keeps_greed fun _ => goesOn
  · exact .fromPlace (.bind keeps_escape fun _ => goesOn)
  · exact .fromPlace goesOn

/-- The two call each other with one unit of fuel less. -/
theorem keepsBodies (fuel : Nat) : KeepsBodies cs fuel := by
  induction fuel with
  | zero => exact ⟨keeps_pure, keeps_pure⟩
  | succ fuel ih => exact ⟨ih.alternatives_succ, ih.sequence_succ⟩

/-! ### Whole texts -/

theorem runs_pattern : Runs cs (Poised cs []) pattern fun _ _ => Whole cs := by
  unfold pattern
  refine .bind runs_load fun _ => ?_
  refine .mono (P := Sound cs) ?_ (fun _ => Stands.sound) fun _ _ => id
  refine .read fun _ => .bind (keepsBodies _).alternatives fun body => ?_
  refine .get fun s ⟨before, hs⟩ => .check ?_ (.get ?_)
  · intro hboth
    obtain ⟨hascii, hunicode⟩ := Bool.and_eq_true_iff.mp hboth
    exact fun _ _ => .twoAlphabets (hs.flags.ascii hascii) (hs.flags.unicode hunicode)
  rintro s rfl
  extract_lets finish
  split
  · exact .stop runs_fail
  · rename_i hnext
    have hwhole : Whole cs := hs.ended (by simpa using hnext) ▸ hs.whole
    have hfinish : Keeps cs (finish ()) :=
      .read fun _ => .bind keeps_checkConditions fun _ => keeps_pure
    refine hfinish.mono ?_ fun _ _ _ => hwhole
    rintro _ rfl
    exact hs.sound

theorem poised_start (cs : List Char) : Poised cs [] { text := cs.toArray } where
  text := rfl
  read := List.nil_prefix
  whole := .nil
  index := rfl
  flags := ⟨by simp, by simp⟩

end Reader

variable {text : String}

/-- A text that spells an expression is one of whole tokens. -/
theorem whole_of_read {result : Expr × ReaderState} (h : read text = .ok result) :
    Whole text.toList := by
  have hruns := Reader.runs_pattern _ (Reader.poised_start text.toList)
  rw [show Reader.pattern.run _ = _ from h] at hruns
  exact hruns

theorem explained_of_read {fault : Fault} (h : read text = .error fault) :
    Explained text.toList fault := by
  have hruns := Reader.runs_pattern _ (Reader.poised_start text.toList)
  rw [show Reader.pattern.run _ = _ from h] at hruns
  exact hruns

/-- A text that spells a pattern does not end in a lone backslash. -/
theorem whole_of_compile {pattern : Pattern} (h : compile text = .ok pattern) :
    Whole text.toList := by
  simp only [compile, bind_eq_ok] at h
  obtain ⟨_, hread, -⟩ := h
  exact whole_of_read hread

/-- Where a text spells no pattern and no problem is at a place of it, the text shows the fault. -/
theorem explained_of_compile {fault : Fault} (h : compile text = .error fault) :
    Explained text.toList fault := by
  simp only [compile, bind_eq_error] at h
  rcases h with hread | ⟨result, -, hnode⟩
  · exact explained_of_read hread
  · split at hnode
    · cases hnode
    · cases hnode
      exact .malformed

end RaggedTables.Pattern
