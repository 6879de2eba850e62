import RaggedTables.Pattern.Compiled
import RaggedTables.Proofs.Outcome

/-! Where the reader of patterns stands in a text, and what its steps from token to token do. It
passes over whole tokens only; and it stops with a problem, or with a fault that the text shows: a
bound of a repetition that is too large or too long, or both alphabets set for the whole of the
pattern. -/

namespace RaggedTables.Pattern

/-- Whole tokens one after the other, each a character or a backslash with the character after it.
-/
inductive Whole : List Char → Prop
  | nil : Whole []
  | char {cs : List Char} {c : Char} (tokens : Whole cs) (plain : c ≠ '\\') : Whole (cs ++ [c])
  | escape {cs : List Char} (c : Char) (tokens : Whole cs) : Whole (cs ++ ['\\', c])

/-- The counts of a repetition as they are written between its braces, with a bound that has `P`. -/
inductive HasBound (P : List Char → Prop) : List Char → Prop
  | exactly {bound : List Char} (digits : ∀ c ∈ bound, Text.isAsciiDigit c = true)
      (holds : P bound) :
      HasBound P bound
  | between {low high : List Char} (lowDigits : ∀ c ∈ low, Text.isAsciiDigit c = true)
      (highDigits : ∀ c ∈ high, Text.isAsciiDigit c = true) (holds : P low ∨ P high) :
      HasBound P (low ++ ',' :: high)

/-- A repetition with a bound that has `P` is written somewhere. -/
def WritesBound (P : List Char → Prop) (cs : List Char) : Prop :=
  ∃ before counts after, cs = before ++ '\x7b' :: counts ++ '\x7d' :: after ∧ HasBound P counts

/-- The flag of a letter is set for the whole of a pattern. -/
def SetsFlag (letter : Char) (cs : List Char) : Prop :=
  ∃ before letters after, cs = before ++ '(' :: '?' :: letters ++ ')' :: after ∧ letter ∈ letters ∧
    ∀ c ∈ letters, (Flags.ofLetter? c).isSome = true

/-- What the text of a pattern shows of a fault in it. -/
inductive Explained (cs : List Char) : Fault → Prop
  | malformed {problem place} : Explained cs (.malformed problem place)
  | hugeRepeat (large : WritesBound (fun digits => repeatLimit ≤ Reader.decimalValue digits) cs) :
      Explained cs .hugeRepeat
  | longCount {n} (limit : Text.digitLimit < n)
      (long : WritesBound (fun digits => digits.length = n) cs) :
      Explained cs (.longCount n)
  | twoAlphabets (ascii : SetsFlag 'a' cs) (unicode : SetsFlag 'u' cs) : Explained cs .twoAlphabets

namespace Reader

/-! ### Where the reader stands -/

/-- The alphabets that were chosen are set in the text. -/
structure FlagsSet (cs : List Char) (flags : Flags) : Prop where
  ascii : flags.ascii = true → SetsFlag 'a' cs
  unicode : flags.unicode = true → SetsFlag 'u' cs

/-- The reader is to take the token behind `before` into view. -/
structure Poised (cs before : List Char) (s : ReaderState) : Prop where
  text : s.text = cs.toArray
  read : before <+: cs
  whole : Whole before
  index : s.index = before.length
  flags : FlagsSet cs s.flags

/-- The reader has read `before` and has the token behind it in view, if there is one. -/
structure Stands (cs before : List Char) (s : ReaderState) : Prop where
  text : s.text = cs.toArray
  read : before ++ s.next <+: cs
  ended : s.next = [] → cs = before
  whole : Whole before
  token : Whole (before ++ s.next)
  index : s.index = before.length + s.next.length
  flags : FlagsSet cs s.flags

/-- The reader stands somewhere. -/
def Sound (cs : List Char) (s : ReaderState) : Prop := ∃ before, Stands cs before s

/-- From a state with `P` the reading comes to a result and a state with `Q`, or it stops with a
fault that the text explains. -/
def Runs {α : Type} (cs : List Char) (P : ReaderState → Prop) (x : Reader α)
    (Q : α → ReaderState → Prop) : Prop :=
  ∀ s, P s → match x.run s with
    | .ok (a, next) => Q a next
    | .error fault => Explained cs fault

/-- From wherever the reader stands, it comes to stand somewhere. -/
abbrev Keeps {α : Type} (cs : List Char) (x : Reader α) : Prop :=
  Runs cs (Sound cs) x fun _ => Sound cs

variable {α β : Type} {cs before : List Char} {P : ReaderState → Prop}

/-! ### Readings one after the other -/

theorem Runs.bind {x : Reader α} {f : α → Reader β} {Q : α → ReaderState → Prop}
    {R : β → ReaderState → Prop} (first : Runs cs P x Q) (second : ∀ a, Runs cs (Q a) (f a) R) :
    Runs cs P (x >>= f) R := by
  intro s hs
  have hx := first s hs
  rw [StateT.run_bind]
  cases h : x.run s with
  | error fault =>
    rw [h] at hx
    exact hx
  | ok result =>
    rw [h] at hx
    exact second result.1 result.2 hx

theorem Runs.pure {a : α} {Q : α → ReaderState → Prop} (h : ∀ s, P s → Q a s) :
    Runs cs P (pure a) Q := fun s hs => h s hs

theorem Runs.mono {x : Reader α} {P' : ReaderState → Prop} {Q Q' : α → ReaderState → Prop}
    (h : Runs cs P x Q) (before : ∀ s, P' s → P s) (after : ∀ a s, Q a s → Q' a s) :
    Runs cs P' x Q' := by
  intro s hs
  have hx := h s (before s hs)
  cases hrun : x.run s with
  | error fault =>
    rw [hrun] at hx
    exact hx
  | ok result =>
    rw [hrun] at hx
    exact after _ _ hx

/-- What is done with the state depends on the state that there is. -/
theorem Runs.get {f : ReaderState → Reader α} {Q : α → ReaderState → Prop}
    (h : ∀ s, P s → Runs cs (fun now => now = s) (f s) Q) : Runs cs P (get >>= f) Q :=
  fun s hs => h s hs s rfl

theorem runs_failAt {problem : Problem} {position : Nat} {Q : α → ReaderState → Prop} :
    Runs cs P (failAt problem position) Q := fun _ _ => .malformed

theorem runs_fail {problem : Problem} {back : Nat} {Q : α → ReaderState → Prop} :
    Runs cs P (fail problem back) Q := fun _ _ => .malformed

theorem keeps_pure {a : α} : Keeps cs (pure a) := .pure fun _ => id

theorem Stands.sound {s : ReaderState} (h : Stands cs before s) : Sound cs s := ⟨before, h⟩

theorem Runs.fromPlace {x : Reader α} (h : Keeps cs x) :
    Runs cs (Stands cs before) x fun _ => Sound cs := h.mono (fun _ => Stands.sound) fun _ _ => id

/-- What is done may depend on the state, also where nothing is to be known of it. -/
theorem Runs.read {f : ReaderState → Reader α} {Q : α → ReaderState → Prop}
    (h : ∀ s, Runs cs P (f s) Q) : Runs cs P (MonadState.get >>= f) Q :=
  fun s hs => h s s hs

theorem runs_modify {f : ReaderState → ReaderState} {Q : Unit → ReaderState → Prop}
    (h : ∀ s, P s → Q () (f s)) : Runs cs P (modify f) Q := fun s hs => h s hs

theorem runs_set {s' : ReaderState} {Q : Unit → ReaderState → Prop} (h : ∀ s, P s → Q () s') :
    Runs cs P (set s') Q := fun s hs => h s hs

theorem Runs.of {x : Reader α} {Q : α → ReaderState → Prop} (h : ∀ s, P s → Runs cs P x Q) :
    Runs cs P x Q := fun s hs => h s hs s hs

/-- What there is of the place is fixed before the reading goes on from it. -/
theorem Runs.exists {ι : Type} {P : ι → ReaderState → Prop} {x : Reader α}
    {Q : α → ReaderState → Prop} (h : ∀ i, Runs cs (P i) x Q) : Runs cs (fun s => ∃ i, P i s) x Q :=
  fun s ⟨i, hs⟩ => h i s hs

theorem Runs.assume {fact : Prop} {x : Reader α} {Q : α → ReaderState → Prop}
    (h : fact → Runs cs P x Q) : Runs cs (fun s => fact ∧ P s) x Q :=
  fun s ⟨hfact, hs⟩ => h hfact s hs

/-- Nothing comes after what always stops the reading. -/
theorem Runs.stop {x : Reader β} {f : β → Reader α} {Q : α → ReaderState → Prop}
    (stops : Runs cs P x fun _ _ => False) : Runs cs P (x >>= f) Q :=
  .bind stops fun _ _ impossible => impossible.elim

/-- A test that stops the reading, or lets it go on. -/
theorem Runs.check {stop : Prop} [Decidable stop] {x : Reader β} {rest : Reader α}
    {Q : α → ReaderState → Prop} (stops : stop → Runs cs P x fun _ _ => False)
    (goes : Runs cs P rest Q) : Runs cs P (if stop then x >>= fun _ => rest else rest) Q := by
  split
  · rename_i hstop
    exact .stop (stops hstop)
  · exact goes

/-- Something is done besides, or not. -/
theorem Runs.also {stop : Prop} [Decidable stop] {x : Reader β} {rest : Reader α}
    {Q : α → ReaderState → Prop} (first : Runs cs P x fun _ => P) (goes : Runs cs P rest Q) :
    Runs cs P (if stop then x >>= fun _ => rest else rest) Q := by
  split
  · exact .bind first fun _ => goes
  · exact goes

/-- A test that stops the reading, at the end of a part of it. -/
theorem Runs.checkLast {stop : Prop} [Decidable stop] {x : Reader Unit}
    (stops : Runs cs P x fun _ _ => False) :
    Runs cs P (if stop then x else Pure.pure ()) fun _ => P := by
  split
  · exact stops.mono (fun _ => id) fun _ _ impossible => impossible.elim
  · exact .pure fun _ => id

/-! ### Tokens -/

theorem Stands.poised {s : ReaderState} (h : Stands cs before s) :
    Poised cs (before ++ s.next) s where
  text := h.text
  read := h.read
  whole := h.token
  index := by simp [h.index]
  flags := h.flags

/-- Nothing is left, or a backslash takes the character after it along, or a character stands alone.
-/
theorem runs_load : Runs cs (Poised cs before) load fun _ => Stands cs before := by
  rintro s ⟨htext, ⟨after, rfl⟩, hwhole, hindex, hflags⟩
  have hget (n : Nat) : s.text[s.index + n]? = after[n]? := by
    simp [htext, hindex, List.getElem?_append_right]
  have hnext : s.text[s.index]? = after.head? := by
    simpa [List.head?_eq_getElem?] using hget 0
  refine Runs.get (P := fun now => now = s) ?_ s rfl
  rintro _ rfl
  rw [hnext, hget 1]
  rcases after with _ | ⟨c, rest⟩
  · refine runs_set fun _ _ => ⟨htext, ?_, ?_, hwhole, ?_, ?_, hflags⟩
    all_goals simp_all
  by_cases hc : c = '\\'
  · subst hc
    rcases rest with _ | ⟨d, rest⟩
    · exact runs_failAt
    · refine runs_set fun _ _ => ⟨htext, ?_, ?_, hwhole, ?_, ?_, hflags⟩
      · simp
      · simp
      · exact .escape d hwhole
      · simp [hindex]
  · simp only [List.head?_cons]
    refine runs_set fun _ _ => ⟨htext, ?_, ?_, hwhole, ?_, ?_, hflags⟩
    · simp
    · simp
    · exact .char hwhole hc
    · simp [hindex]

theorem runs_load_next {token : List Char} :
    Runs cs (fun s => Stands cs before s ∧ s.next = token) load fun _ =>
      Stands cs (before ++ token) :=
  runs_load.mono (fun _ h => h.2 ▸ h.1.poised) fun _ _ h => h

theorem keeps_load : Keeps cs load := by
  rintro s ⟨before, h⟩
  exact (runs_load_next.mono (fun _ h => h) fun _ _ => Stands.sound) s ⟨h, rfl⟩

theorem runs_tell :
    Runs cs (Stands cs before) tell fun place s => place = before.length ∧ Stands cs before s := by
  refine .get fun s hs => .pure ?_
  rintro _ rfl
  exact ⟨by simp [hs.index], hs⟩

theorem keeps_tell : Keeps cs tell := .read fun _ => keeps_pure

theorem runs_take : Runs cs (Stands cs before) take fun token => Stands cs (before ++ token) := by
  refine .get fun s hs => .bind (Q := fun _ => Stands cs (before ++ s.next)) ?_ fun _ =>
    .pure fun _ => id
  refine runs_load_next.mono ?_ fun _ _ => id
  rintro _ rfl
  exact ⟨hs, rfl⟩

theorem keeps_take : Keeps cs take := .read fun _ => .bind keeps_load fun _ => keeps_pure

theorem runs_accept {c : Char} :
    Runs cs (Stands cs before) (accept c) fun passed =>
      Stands cs (if passed then before ++ [c] else before) := by
  refine .get fun s hs => ?_
  split
  · rename_i hnext
    refine .bind (Q := fun _ => Stands cs (before ++ [c])) ?_ fun _ => .pure fun _ => id
    refine runs_load_next.mono ?_ fun _ _ => id
    rintro _ rfl
    exact ⟨hs, by simpa using hnext⟩
  · refine .pure ?_
    rintro _ rfl
    exact hs

theorem keeps_accept {c : Char} : Keeps cs (accept c) := by
  refine .read fun s => ?_
  split
  · exact .bind keeps_load fun _ => keeps_pure
  · exact keeps_pure

theorem runs_takeWhile {p : Char → Bool} {count : Nat} :
    Runs cs (Stands cs before) (takeWhile p count) fun digits s =>
      (∀ c ∈ digits, p c = true) ∧ Stands cs (before ++ digits) s := by
  induction count generalizing before with
  | zero => exact .pure fun s hs => ⟨by simp, by simpa using hs⟩
  | succ count ih =>
    have stops : Runs cs (Stands cs before) (pure []) fun digits s =>
        (∀ c ∈ digits, p c = true) ∧ Stands cs (before ++ digits) s :=
      .pure fun s hs => ⟨by simp, by simpa using hs⟩
    refine .get fun s hs => ?_
    have hnow : ∀ now, now = s → Stands cs before now := by
      rintro _ rfl
      exact hs
    split
    · rename_i c hnext
      split
      · rename_i hc
        refine .bind (Q := fun _ => Stands cs (before ++ [c])) ?_ fun _ => .bind ih fun digits => ?_
        · refine runs_load_next.mono ?_ fun _ _ => id
          rintro _ rfl
          exact ⟨hs, hnext⟩
        · refine .pure fun s ⟨hdigits, hs⟩ => ⟨?_, by simpa using hs⟩
          simpa [hc] using hdigits
      · exact stops.mono hnow fun _ _ => id
    · exact stops.mono hnow fun _ _ => id

theorem keeps_takeWhile {p : Char → Bool} {count : Nat} : Keeps cs (takeWhile p count) := by
  rintro s ⟨before, h⟩
  exact (runs_takeWhile.mono (fun _ h => h) fun _ _ h => h.2.sound) s h

theorem runs_seek (read : before <+: cs) (whole : Whole before) :
    Runs cs (Sound cs) (seek before.length) fun _ => Stands cs before :=
  .bind (runs_modify fun _ ⟨_, hs⟩ => ⟨hs.text, read, whole, rfl, hs.flags⟩) fun _ => runs_load

end Reader

end RaggedTables.Pattern
