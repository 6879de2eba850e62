import RaggedTables.Text.CodeRange

/-! Upper and lower case. A run of letters whose other case lies at a fixed distance is one entry of
a table; a few letters have an upper case of two or three characters. Letters that a pattern takes
for equal although their lower cases differ are listed as families. -/

namespace RaggedTables.Text

/-- From `first` to `last`, every `step`-th code point moves up by `up` and down by `down`. -/
structure CaseRun where
  first : Nat
  last : Nat
  step : Nat
  up : Nat
  down : Nat
deriving Repr, Inhabited

/-- The runs that entries `first-last-step-up-down` write. -/
def CaseRun.ofLines (lines : List String) : Array CaseRun :=
  ((lines.flatMap fun line => line.splitOn " ").map fun entry =>
    match (entry.splitOn "-").map fun part => hexValue part.toList with
    | [first, last, step, up, down] => ⟨first, last, step, up, down⟩
    | _ => ⟨0, 0, 1, 0, 0⟩).toArray

/-- Where the run takes `n`. -/
def CaseRun.apply? (run : CaseRun) (n : Nat) : Option Nat :=
  if run.first ≤ n && n ≤ run.last && (n - run.first) % run.step == 0 then
    some (n + run.up - run.down)
  else none

/-- Lower case beyond ASCII. -/
def lowerRuns : Array CaseRun := CaseRun.ofLines
    ["c0-d6-1-20-0 d8-de-1-20-0 100-12e-2-1-0 130-130-1-0-c7 132-136-2-1-0 139-147-2-1-0",
     "14a-176-2-1-0 178-178-1-0-79 179-17d-2-1-0 181-181-1-d2-0 182-184-2-1-0 186-186-1-ce-0",
     "187-187-1-1-0 189-18a-1-cd-0 18b-18b-1-1-0 18e-18e-1-4f-0 18f-18f-1-ca-0 190-190-1-cb-0",
     "191-191-1-1-0 193-193-1-cd-0 194-194-1-cf-0 196-196-1-d3-0 197-197-1-d1-0 198-198-1-1-0",
     "19c-19c-1-d3-0 19d-19d-1-d5-0 19f-19f-1-d6-0 1a0-1a4-2-1-0 1a6-1a6-1-da-0 1a7-1a7-1-1-0",
     "1a9-1a9-1-da-0 1ac-1ac-1-1-0 1ae-1ae-1-da-0 1af-1af-1-1-0 1b1-1b2-1-d9-0 1b3-1b5-2-1-0",
     "1b7-1b7-1-db-0 1b8-1b8-1-1-0 1bc-1bc-1-1-0 1c4-1c4-1-2-0 1c5-1c5-1-1-0 1c7-1c7-1-2-0",
     "1c8-1c8-1-1-0 1ca-1ca-1-2-0 1cb-1db-2-1-0 1de-1ee-2-1-0 1f1-1f1-1-2-0 1f2-1f4-2-1-0",
     "1f6-1f6-1-0-61 1f7-1f7-1-0-38 1f8-21e-2-1-0 220-220-1-0-82 222-232-2-1-0 23a-23a-1-2a2b-0",
     "23b-23b-1-1-0 23d-23d-1-0-a3 23e-23e-1-2a28-0 241-241-1-1-0 243-243-1-0-c3 244-244-1-45-0",
     "245-245-1-47-0 246-24e-2-1-0 370-372-2-1-0 376-376-1-1-0 37f-37f-1-74-0 386-386-1-26-0",
     "388-38a-1-25-0 38c-38c-1-40-0 38e-38f-1-3f-0 391-3a1-1-20-0 3a3-3ab-1-20-0 3cf-3cf-1-8-0",
     "3d8-3ee-2-1-0 3f4-3f4-1-0-3c 3f7-3f7-1-1-0 3f9-3f9-1-0-7 3fa-3fa-1-1-0 3fd-3ff-1-0-82",
     "400-40f-1-50-0 410-42f-1-20-0 460-480-2-1-0 48a-4be-2-1-0 4c0-4c0-1-f-0 4c1-4cd-2-1-0",
     "4d0-52e-2-1-0 531-556-1-30-0 10a0-10c5-1-1c60-0 10c7-10c7-1-1c60-0 10cd-10cd-1-1c60-0",
     "13a0-13ef-1-97d0-0 13f0-13f5-1-8-0 1c90-1cba-1-0-bc0 1cbd-1cbf-1-0-bc0 1e00-1e94-2-1-0",
     "1e9e-1e9e-1-0-1dbf 1ea0-1efe-2-1-0 1f08-1f0f-1-0-8 1f18-1f1d-1-0-8 1f28-1f2f-1-0-8",
     "1f38-1f3f-1-0-8 1f48-1f4d-1-0-8 1f59-1f5f-2-0-8 1f68-1f6f-1-0-8 1f88-1f8f-1-0-8",
     "1f98-1f9f-1-0-8 1fa8-1faf-1-0-8 1fb8-1fb9-1-0-8 1fba-1fbb-1-0-4a 1fbc-1fbc-1-0-9",
     "1fc8-1fcb-1-0-56 1fcc-1fcc-1-0-9 1fd8-1fd9-1-0-8 1fda-1fdb-1-0-64 1fe8-1fe9-1-0-8",
     "1fea-1feb-1-0-70 1fec-1fec-1-0-7 1ff8-1ff9-1-0-80 1ffa-1ffb-1-0-7e 1ffc-1ffc-1-0-9",
     "2126-2126-1-0-1d5d 212a-212a-1-0-20bf 212b-212b-1-0-2046 2132-2132-1-1c-0 2160-216f-1-10-0",
     "2183-2183-1-1-0 24b6-24cf-1-1a-0 2c00-2c2f-1-30-0 2c60-2c60-1-1-0 2c62-2c62-1-0-29f7",
     "2c63-2c63-1-0-ee6 2c64-2c64-1-0-29e7 2c67-2c6b-2-1-0 2c6d-2c6d-1-0-2a1c 2c6e-2c6e-1-0-29fd",
     "2c6f-2c6f-1-0-2a1f 2c70-2c70-1-0-2a1e 2c72-2c72-1-1-0 2c75-2c75-1-1-0 2c7e-2c7f-1-0-2a3f",
     "2c80-2ce2-2-1-0 2ceb-2ced-2-1-0 2cf2-2cf2-1-1-0 a640-a66c-2-1-0 a680-a69a-2-1-0",
     "a722-a72e-2-1-0 a732-a76e-2-1-0 a779-a77b-2-1-0 a77d-a77d-1-0-8a04 a77e-a786-2-1-0",
     "a78b-a78b-1-1-0 a78d-a78d-1-0-a528 a790-a792-2-1-0 a796-a7a8-2-1-0 a7aa-a7aa-1-0-a544",
     "a7ab-a7ab-1-0-a54f a7ac-a7ac-1-0-a54b a7ad-a7ad-1-0-a541 a7ae-a7ae-1-0-a544",
     "a7b0-a7b0-1-0-a512 a7b1-a7b1-1-0-a52a a7b2-a7b2-1-0-a515 a7b3-a7b3-1-3a0-0 a7b4-a7c2-2-1-0",
     "a7c4-a7c4-1-0-30 a7c5-a7c5-1-0-a543 a7c6-a7c6-1-0-8a38 a7c7-a7c9-2-1-0 a7d0-a7d0-1-1-0",
     "a7d6-a7d8-2-1-0 a7f5-a7f5-1-1-0 ff21-ff3a-1-20-0 10400-10427-1-28-0 104b0-104d3-1-28-0",
     "10570-10570-1-27-0 10571-1057a-1-27-0 1057c-1058a-1-27-0 1058c-10592-1-27-0",
     "10594-10595-1-27-0 10c80-10cb2-1-40-0 118a0-118bf-1-20-0 16e40-16e5f-1-20-0",
     "1e900-1e921-1-22-0"]

/-- Upper case beyond ASCII, where it is one character. -/
def upperRuns : Array CaseRun := CaseRun.ofLines
    ["b5-b5-1-2e7-0 e0-f6-1-0-20 f8-fe-1-0-20 ff-ff-1-79-0 101-12f-2-0-1 131-131-1-0-e8",
     "133-137-2-0-1 13a-148-2-0-1 14b-177-2-0-1 17a-17e-2-0-1 17f-17f-1-0-12c 180-180-1-c3-0",
     "183-185-2-0-1 188-188-1-0-1 18c-18c-1-0-1 192-192-1-0-1 195-195-1-61-0 199-199-1-0-1",
     "19a-19a-1-a3-0 19e-19e-1-82-0 1a1-1a5-2-0-1 1a8-1a8-1-0-1 1ad-1ad-1-0-1 1b0-1b0-1-0-1",
     "1b4-1b6-2-0-1 1b9-1b9-1-0-1 1bd-1bd-1-0-1 1bf-1bf-1-38-0 1c5-1c5-1-0-1 1c6-1c6-1-0-2",
     "1c8-1c8-1-0-1 1c9-1c9-1-0-2 1cb-1cb-1-0-1 1cc-1cc-1-0-2 1ce-1dc-2-0-1 1dd-1dd-1-0-4f",
     "1df-1ef-2-0-1 1f2-1f2-1-0-1 1f3-1f3-1-0-2 1f5-1f5-1-0-1 1f9-21f-2-0-1 223-233-2-0-1",
     "23c-23c-1-0-1 23f-240-1-2a3f-0 242-242-1-0-1 247-24f-2-0-1 250-250-1-2a1f-0 251-251-1-2a1c-0",
     "252-252-1-2a1e-0 253-253-1-0-d2 254-254-1-0-ce 256-257-1-0-cd 259-259-1-0-ca 25b-25b-1-0-cb",
     "25c-25c-1-a54f-0 260-260-1-0-cd 261-261-1-a54b-0 263-263-1-0-cf 265-265-1-a528-0",
     "266-266-1-a544-0 268-268-1-0-d1 269-269-1-0-d3 26a-26a-1-a544-0 26b-26b-1-29f7-0",
     "26c-26c-1-a541-0 26f-26f-1-0-d3 271-271-1-29fd-0 272-272-1-0-d5 275-275-1-0-d6",
     "27d-27d-1-29e7-0 280-280-1-0-da 282-282-1-a543-0 283-283-1-0-da 287-287-1-a52a-0",
     "288-288-1-0-da 289-289-1-0-45 28a-28b-1-0-d9 28c-28c-1-0-47 292-292-1-0-db 29d-29d-1-a515-0",
     "29e-29e-1-a512-0 345-345-1-54-0 371-373-2-0-1 377-377-1-0-1 37b-37d-1-82-0 3ac-3ac-1-0-26",
     "3ad-3af-1-0-25 3b1-3c1-1-0-20 3c2-3c2-1-0-1f 3c3-3cb-1-0-20 3cc-3cc-1-0-40 3cd-3ce-1-0-3f",
     "3d0-3d0-1-0-3e 3d1-3d1-1-0-39 3d5-3d5-1-0-2f 3d6-3d6-1-0-36 3d7-3d7-1-0-8 3d9-3ef-2-0-1",
     "3f0-3f0-1-0-56 3f1-3f1-1-0-50 3f2-3f2-1-7-0 3f3-3f3-1-0-74 3f5-3f5-1-0-60 3f8-3f8-1-0-1",
     "3fb-3fb-1-0-1 430-44f-1-0-20 450-45f-1-0-50 461-481-2-0-1 48b-4bf-2-0-1 4c2-4ce-2-0-1",
     "4cf-4cf-1-0-f 4d1-52f-2-0-1 561-586-1-0-30 10d0-10fa-1-bc0-0 10fd-10ff-1-bc0-0",
     "13f8-13fd-1-0-8 1c80-1c80-1-0-186e 1c81-1c81-1-0-186d 1c82-1c82-1-0-1864 1c83-1c84-1-0-1862",
     "1c85-1c85-1-0-1863 1c86-1c86-1-0-185c 1c87-1c87-1-0-1825 1c88-1c88-1-89c2-0",
     "1d79-1d79-1-8a04-0 1d7d-1d7d-1-ee6-0 1d8e-1d8e-1-8a38-0 1e01-1e95-2-0-1 1e9b-1e9b-1-0-3b",
     "1ea1-1eff-2-0-1 1f00-1f07-1-8-0 1f10-1f15-1-8-0 1f20-1f27-1-8-0 1f30-1f37-1-8-0",
     "1f40-1f45-1-8-0 1f51-1f57-2-8-0 1f60-1f67-1-8-0 1f70-1f71-1-4a-0 1f72-1f75-1-56-0",
     "1f76-1f77-1-64-0 1f78-1f79-1-80-0 1f7a-1f7b-1-70-0 1f7c-1f7d-1-7e-0 1fb0-1fb1-1-8-0",
     "1fbe-1fbe-1-0-1c25 1fd0-1fd1-1-8-0 1fe0-1fe1-1-8-0 1fe5-1fe5-1-7-0 214e-214e-1-0-1c",
     "2170-217f-1-0-10 2184-2184-1-0-1 24d0-24e9-1-0-1a 2c30-2c5f-1-0-30 2c61-2c61-1-0-1",
     "2c65-2c65-1-0-2a2b 2c66-2c66-1-0-2a28 2c68-2c6c-2-0-1 2c73-2c73-1-0-1 2c76-2c76-1-0-1",
     "2c81-2ce3-2-0-1 2cec-2cee-2-0-1 2cf3-2cf3-1-0-1 2d00-2d25-1-0-1c60 2d27-2d27-1-0-1c60",
     "2d2d-2d2d-1-0-1c60 a641-a66d-2-0-1 a681-a69b-2-0-1 a723-a72f-2-0-1 a733-a76f-2-0-1",
     "a77a-a77c-2-0-1 a77f-a787-2-0-1 a78c-a78c-1-0-1 a791-a793-2-0-1 a794-a794-1-30-0",
     "a797-a7a9-2-0-1 a7b5-a7c3-2-0-1 a7c8-a7ca-2-0-1 a7d1-a7d1-1-0-1 a7d7-a7d9-2-0-1",
     "a7f6-a7f6-1-0-1 ab53-ab53-1-0-3a0 ab70-abbf-1-0-97d0 ff41-ff5a-1-0-20 10428-1044f-1-0-28",
     "104d8-104fb-1-0-28 10597-10597-1-0-27 10598-105a1-1-0-27 105a3-105b1-1-0-27",
     "105b3-105b9-1-0-27 105bb-105bc-1-0-27 10cc0-10cf2-1-0-40 118c0-118df-1-0-20",
     "16e60-16e7f-1-0-20 1e922-1e943-1-0-22"]

/-- Upper case of several characters. -/
def upperSpellings : List (Nat × List Nat) :=
  (["df:53+53 149:2bc+4e 1f0:4a+30c 390:399+308+301 3b0:3a5+308+301 587:535+552 1e96:48+331",
    "1e97:54+308 1e98:57+30a 1e99:59+30a 1e9a:41+2be 1f50:3a5+313 1f52:3a5+313+300",
    "1f54:3a5+313+301 1f56:3a5+313+342 1f80:1f08+399 1f81:1f09+399 1f82:1f0a+399 1f83:1f0b+399",
    "1f84:1f0c+399 1f85:1f0d+399 1f86:1f0e+399 1f87:1f0f+399 1f88:1f08+399 1f89:1f09+399",
    "1f8a:1f0a+399 1f8b:1f0b+399 1f8c:1f0c+399 1f8d:1f0d+399 1f8e:1f0e+399 1f8f:1f0f+399",
    "1f90:1f28+399 1f91:1f29+399 1f92:1f2a+399 1f93:1f2b+399 1f94:1f2c+399 1f95:1f2d+399",
    "1f96:1f2e+399 1f97:1f2f+399 1f98:1f28+399 1f99:1f29+399 1f9a:1f2a+399 1f9b:1f2b+399",
    "1f9c:1f2c+399 1f9d:1f2d+399 1f9e:1f2e+399 1f9f:1f2f+399 1fa0:1f68+399 1fa1:1f69+399",
    "1fa2:1f6a+399 1fa3:1f6b+399 1fa4:1f6c+399 1fa5:1f6d+399 1fa6:1f6e+399 1fa7:1f6f+399",
    "1fa8:1f68+399 1fa9:1f69+399 1faa:1f6a+399 1fab:1f6b+399 1fac:1f6c+399 1fad:1f6d+399",
    "1fae:1f6e+399 1faf:1f6f+399 1fb2:1fba+399 1fb3:391+399 1fb4:386+399 1fb6:391+342",
    "1fb7:391+342+399 1fbc:391+399 1fc2:1fca+399 1fc3:397+399 1fc4:389+399 1fc6:397+342",
    "1fc7:397+342+399 1fcc:397+399 1fd2:399+308+300 1fd3:399+308+301 1fd6:399+342 1fd7:399+308+342",
    "1fe2:3a5+308+300 1fe3:3a5+308+301 1fe4:3a1+313 1fe6:3a5+342 1fe7:3a5+308+342 1ff2:1ffa+399",
    "1ff3:3a9+399 1ff4:38f+399 1ff6:3a9+342 1ff7:3a9+342+399 1ffc:3a9+399 fb00:46+46 fb01:46+49",
    "fb02:46+4c fb03:46+46+49 fb04:46+46+4c fb05:53+54 fb06:53+54 fb13:544+546 fb14:544+535",
    "fb15:544+53b fb16:54e+546 fb17:544+53d"].flatMap fun line => line.splitOn " ").map fun entry =>
      match entry.splitOn ":" with
      | [letter, spelling] =>
        (hexValue letter.toList, (spelling.splitOn "+").map fun part => hexValue part.toList)
      | _ => (0, [])

/-- The lower case of a code point; a dotted capital I becomes a plain i. -/
def lowerCode (n : Nat) : Nat :=
  if n < 128 then if 0x41 ≤ n ∧ n ≤ 0x5a then n + 32 else n
  else (lowerRuns.findSome? fun run => run.apply? n).getD n

/-- The upper case of a code point, as one or more code points. -/
def upperCodes (n : Nat) : List Nat :=
  if n < 128 then if 0x61 ≤ n ∧ n ≤ 0x7a then [n - 32] else [n]
  else
    match upperSpellings.lookup n with
    | some spelling => spelling
    | none => [(upperRuns.findSome? fun run => run.apply? n).getD n]

/-- Has another case. -/
def isCased (n : Nat) : Bool := lowerCode n != n || (upperCodes n).head? != some n

/-- The upper case of a text. -/
def upper (s : String) : String :=
  String.ofList (s.toList.flatMap fun c => (upperCodes c.toNat).map Char.ofNat)

/-- The lower case of a text, letter by letter. -/
def lower (s : String) : String :=
  String.ofList (s.toList.flatMap fun c =>
    if c.toNat == 0x130 then ['i', Char.ofNat 0x307] else [Char.ofNat (lowerCode c.toNat)])

/-- Lower-case letters that a pattern without regard to case takes for each other. -/
def caseFamilies : List (List Nat) :=
  [[0x69, 0x131], [0x73, 0x17f], [0xb5, 0x3bc], [0x345, 0x3b9, 0x1fbe], [0x390, 0x1fd3],
    [0x3b0, 0x1fe3], [0x3b2, 0x3d0], [0x3b5, 0x3f5], [0x3b8, 0x3d1], [0x3ba, 0x3f0],
    [0x3c0, 0x3d6], [0x3c1, 0x3f1], [0x3c2, 0x3c3], [0x3c6, 0x3d5], [0x432, 0x1c80],
    [0x434, 0x1c81], [0x43e, 0x1c82], [0x441, 0x1c83], [0x442, 0x1c84, 0x1c85],
    [0x44a, 0x1c86], [0x463, 0x1c87], [0x1c88, 0xa64b], [0x1e61, 0x1e9b], [0xfb05, 0xfb06]]

/-- Equal without regard to case: the lower cases are equal or of one family. -/
def sameLetter (a b : Nat) : Bool :=
  let x := lowerCode a
  let y := lowerCode b
  x == y || caseFamilies.any fun family => family.contains x && family.contains y

/-- The code points that `run` takes to `n`. -/
def CaseRun.sources (run : CaseRun) (n : Nat) : List Nat :=
  let m := n + run.down - run.up
  if run.up ≤ n + run.down && run.apply? m == some n then [m] else []

/-- The code points whose lower case is `n`, `n` itself included when it is its own. -/
def codesWithLower (n : Nat) : List Nat :=
  (if lowerCode n == n then [n] else []) ++
    (if 0x61 ≤ n ∧ n ≤ 0x7a then [n - 32] else []) ++
    lowerRuns.toList.flatMap fun run => run.sources n

/-- The code points equal to `n` without regard to case. -/
def letterClass (n : Nat) : List Nat :=
  let x := lowerCode n
  let family := ((caseFamilies.filter fun family => family.contains x).flatten ++ [x]).eraseDups
  family.flatMap codesWithLower

end RaggedTables.Text
