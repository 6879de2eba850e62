import RaggedTables.Files.Tree
import RaggedTables.Proofs.Outcome

/-! Texts as bytes. What was encoded is decoded to the same characters, whatever they are, and
reading changes nothing but line ends. -/

namespace RaggedTables.Utf8

/-! ### Bytes -/

theorem isTail_ofNat {x : Nat} (h : x < 64) : isTail (UInt8.ofNat (x + 128)) = true := by
  revert x
  decide

theorem low_ofNat {x : Nat} (h : x < 64) : (UInt8.ofNat (x + 128)).toNat &&& 0x3f = x := by
  revert x
  decide

theorem sizeOf?_one {x : Nat} (h : x < 128) : sizeOf? (UInt8.ofNat x) = some 1 := by
  revert x
  decide

theorem sizeOf?_two {x : Nat} (h : x < 32) (long : 2 ≤ x) :
    sizeOf? (UInt8.ofNat (x + 192)) = some 2 := by
  revert x
  decide

theorem sizeOf?_three {x : Nat} (h : x < 16) : sizeOf? (UInt8.ofNat (x + 224)) = some 3 := by
  revert x
  decide

theorem sizeOf?_four {x : Nat} (h : x < 5) : sizeOf? (UInt8.ofNat (x + 240)) = some 4 := by
  revert x
  decide

theorem fitsSecond_two {x y : Nat} (h : x < 32) (hy : y < 64) :
    fitsSecond (UInt8.ofNat (x + 192)) (UInt8.ofNat (y + 128)) = true := by
  have all : ∀ x < 32, ∀ y < 64,
      fitsSecond (UInt8.ofNat (x + 192)) (UInt8.ofNat (y + 128)) = true := by decide +kernel
  exact all x h y hy

/-- The second of three bytes: nothing that two bytes could say, and no half of a pair. -/
theorem fitsSecond_three {x y : Nat} (h : x < 16) (hy : y < 64) (long : x = 0 → 32 ≤ y)
    (whole : x = 13 → y < 32) :
    fitsSecond (UInt8.ofNat (x + 224)) (UInt8.ofNat (y + 128)) = true := by
  have all : ∀ x < 16, ∀ y < 64, (x = 0 → 32 ≤ y) → (x = 13 → y < 32) →
      fitsSecond (UInt8.ofNat (x + 224)) (UInt8.ofNat (y + 128)) = true := by decide +kernel
  exact all x h y hy long whole

/-- The second of four bytes: nothing that three bytes could say, and nothing beyond the last
character. -/
theorem fitsSecond_four {x y : Nat} (h : x < 5) (hy : y < 64) (long : x = 0 → 16 ≤ y)
    (last : x = 4 → y < 16) :
    fitsSecond (UInt8.ofNat (x + 240)) (UInt8.ofNat (y + 128)) = true := by
  have all : ∀ x < 5, ∀ y < 64, (x = 0 → 16 ≤ y) → (x = 4 → y < 16) →
      fitsSecond (UInt8.ofNat (x + 240)) (UInt8.ofNat (y + 128)) = true := by decide +kernel
  exact all x h y hy long last

/-! ### Characters -/

section

variable {a b c d : UInt8} (after : List UInt8)

theorem decodeChar_one (size : sizeOf? a = some 1) :
    decodeChar a after = .ok (Char.ofNat a.toNat, after) := by
  simp [decodeChar, size]

theorem decodeChar_two (size : sizeOf? a = some 2) (second : fitsSecond a b = true) :
    decodeChar a (b :: after) = .ok (Char.ofNat (code a [b]), after) := by
  simp [decodeChar, size, goodTail, second]

theorem decodeChar_three (size : sizeOf? a = some 3) (second : fitsSecond a b = true)
    (third : isTail c = true) :
    decodeChar a (b :: c :: after) = .ok (Char.ofNat (code a [b, c]), after) := by
  simp [decodeChar, size, goodTail, second, third]

theorem decodeChar_four (size : sizeOf? a = some 4) (second : fitsSecond a b = true)
    (third : isTail c = true) (fourth : isTail d = true) :
    decodeChar a (b :: c :: d :: after) = .ok (Char.ofNat (code a [b, c, d]), after) := by
  simp [decodeChar, size, goodTail, second, third, fourth]

end

theorem code_two {x y : Nat} (hx : x < 32) (hy : y < 64) :
    code (UInt8.ofNat (x + 192)) [UInt8.ofNat (y + 128)] = x * 64 + y := by
  have high : ∀ x < 32, (UInt8.ofNat (x + 192)).toNat &&& 0x1f = x := by decide
  simp only [code, List.length_singleton, List.foldl_cons, List.foldl_nil, low_ofNat hy]
  exact congrArg (· * 64 + y) (high x hx)

theorem code_three {x y z : Nat} (hx : x < 16) (hy : y < 64) (hz : z < 64) :
    code (UInt8.ofNat (x + 224)) [UInt8.ofNat (y + 128), UInt8.ofNat (z + 128)] =
      (x * 64 + y) * 64 + z := by
  have high : ∀ x < 16, (UInt8.ofNat (x + 224)).toNat &&& 0xf = x := by decide
  simp only [code, List.length_cons, List.length_nil, List.foldl_cons, List.foldl_nil, low_ofNat hy,
    low_ofNat hz]
  exact congrArg (fun n => (n * 64 + y) * 64 + z) (high x hx)

theorem code_four {x y z w : Nat} (hx : x < 5) (hy : y < 64) (hz : z < 64) (hw : w < 64) :
    code (UInt8.ofNat (x + 240))
        [UInt8.ofNat (y + 128), UInt8.ofNat (z + 128), UInt8.ofNat (w + 128)] =
      ((x * 64 + y) * 64 + z) * 64 + w := by
  have high : ∀ x < 5, (UInt8.ofNat (x + 240)).toNat &&& 7 = x := by decide
  simp only [code, List.length_cons, List.length_nil, List.foldl_cons, List.foldl_nil, low_ofNat hy,
    low_ofNat hz, low_ofNat hw]
  exact congrArg (fun n => ((n * 64 + y) * 64 + z) * 64 + w) (high x hx)

/-- A character is found again in front of whatever follows its bytes. -/
theorem decodeChar_encodeChar (c : Char) (after : List UInt8) :
    ∃ first tail, String.utf8EncodeChar c = first :: tail ∧
      decodeChar first (tail ++ after) = .ok (c, after) := by
  have valid : c.val.toNat < 0xd800 ∨ 0xdfff < c.val.toNat ∧ c.val.toNat < 0x110000 := c.valid
  have same : Char.ofNat c.val.toNat = c := Char.ofNat_toNat c
  rw [String.utf8EncodeChar]
  generalize c.val.toNat = v at valid same
  have third : v / 64 % 64 < 64 := Nat.mod_lt _ (by decide)
  have last : v % 64 < 64 := Nat.mod_lt _ (by decide)
  split
  · have byte : (UInt8.ofNat v).toNat = v := UInt8.toNat_ofNat_of_lt' (by simp [UInt8.size]; omega)
    refine ⟨_, _, rfl, (decodeChar_one after (sizeOf?_one (by omega))).trans ?_⟩
    rw [byte, same]
  split
  · have top : v / 64 % 32 < 32 := Nat.mod_lt _ (by decide)
    have number : v / 64 % 32 * 64 + v % 64 = v := by omega
    refine ⟨_, _, rfl, (decodeChar_two after (sizeOf?_two top (by omega))
      (fitsSecond_two top last)).trans ?_⟩
    rw [code_two top last, number, same]
  split
  · have top : v / 4096 % 16 < 16 := Nat.mod_lt _ (by decide)
    have number : (v / 4096 % 16 * 64 + v / 64 % 64) * 64 + v % 64 = v := by omega
    refine ⟨_, _, rfl, (decodeChar_three after (sizeOf?_three top)
      (fitsSecond_three top third (by omega) (by omega)) (isTail_ofNat last)).trans ?_⟩
    rw [code_three top third last, number, same]
  · have top : v / 262144 % 8 < 5 := by omega
    have second : v / 4096 % 64 < 64 := Nat.mod_lt _ (by decide)
    have number :
        ((v / 262144 % 8 * 64 + v / 4096 % 64) * 64 + v / 64 % 64) * 64 + v % 64 = v := by omega
    refine ⟨_, _, rfl, (decodeChar_four after (sizeOf?_four top)
      (fitsSecond_four top second (by omega) (by omega)) (isTail_ofNat third)
      (isTail_ofNat last)).trans ?_⟩
    rw [code_four top second third last, number, same]

/-! ### Texts -/

theorem decodeFrom_encode (cs : List Char) (place fuel : Nat)
    (enough : (encode cs).length ≤ fuel) : decodeFrom place fuel (encode cs) = .ok cs := by
  induction cs generalizing place fuel with
  | nil => simp [encode, decodeFrom]
  | cons c cs ih =>
    obtain ⟨first, tail, bytes, read⟩ := decodeChar_encodeChar c (encode cs)
    have whole : encode (c :: cs) = first :: (tail ++ encode cs) := by
      simp [encode, bytes]
    rw [whole] at enough ⊢
    cases fuel with
    | zero => simp at enough
    | succ fuel =>
      have room : (encode cs).length ≤ fuel := by
        simp only [List.length_cons, List.length_append] at enough
        omega
      simp only [decodeFrom, read, ih _ _ room]
      rfl

/-- Decoding gives back what was encoded. -/
theorem decode_encode (cs : List Char) : decode (encode cs) = .ok cs :=
  decodeFrom_encode cs 0 _ (Nat.le_refl _)

theorem unifyLines_of_not_mem {cs : List Char} (h : '\r' ∉ cs) : unifyLines cs = cs := by
  induction cs with
  | nil => rfl
  | cons c cs ih =>
    simp only [List.mem_cons, not_or] at h
    have here : c ≠ '\r' := fun e => h.1 e.symm
    rw [unifyLines.eq_3 _ _ (fun _ e => absurd e here) here, ih h.2]

theorem not_mem_unifyLines (cs : List Char) : '\r' ∉ unifyLines cs := by
  fun_induction unifyLines cs with
  | case1 rest ih => simpa using ih
  | case2 rest _ ih => simpa using ih
  | case3 c rest _ apart ih => simpa [eq_comm] using ⟨apart, ih⟩
  | case4 => simp

/-- Unifying line ends changes a text exactly if there is a carriage return in it. -/
theorem unifyLines_eq_self_iff {cs : List Char} : unifyLines cs = cs ↔ '\r' ∉ cs := by
  refine ⟨fun same => ?_, unifyLines_of_not_mem⟩
  rw [← same]
  exact not_mem_unifyLines cs

/-- The bytes of a text are its UTF-8 encoding. -/
theorem encode_toList (text : String) : encode text.toList = text.toByteArray.data.toList := by
  rw [← String.utf8Encode_toList]
  simp [encode, List.utf8Encode]

end RaggedTables.Utf8

namespace RaggedTables.FileTree

/-- What was written is read with its line ends unified. -/
theorem textOf_encode (text : String) :
    textOf (Utf8.encode text.toList) = .ok (String.ofList (Utf8.unifyLines text.toList)) := by
  rw [textOf, Utf8.decode_encode]

end RaggedTables.FileTree
