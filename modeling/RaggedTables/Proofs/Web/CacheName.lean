import RaggedTables.Proofs.Files.Tree
import RaggedTables.Web.Fetcher

/-! Where pages are kept. The name of a kept page is a plain name, whatever the address is, so its
file stands directly in the directory of the cache, and two names never lead to one file. -/

namespace RaggedTables.Web

/-! ### Names -/

theorem lastName?_mem_splitOn {url name : String} (h : lastName? url = some name) :
    name ≠ "" ∧ name.toList ∈ url.toList.splitOn '/' := by
  rw [lastName?, Text.pieces_singleton] at h
  split at h
  · simp at h
  · rename_i names split
    obtain ⟨piece, last, rfl⟩ := Option.map_eq_some_iff.mp h
    obtain ⟨hpiece, filled⟩ := List.mem_filter.mp (List.mem_of_getLast? last)
    refine ⟨by simpa using filled, ?_⟩
    rw [split, String.toList_ofList]
    exact List.mem_cons_of_mem _ hpiece

theorem lastName?_some {url name : String} (h : lastName? url = some name) :
    name ≠ "" ∧ '/' ∉ name.toList := by
  obtain ⟨filled, piece⟩ := lastName?_mem_splitOn h
  exact ⟨filled, Text.not_mem_of_mem_splitOn piece⟩

/-- The last of the names that an address is written with, if it is a name. -/
theorem lastName?_of_pieces {texts : List (List Char)} {name : String} (filled : name ≠ "")
    (noSlash : '/' ∉ name.toList) (apart : ∀ text ∈ texts, '/' ∉ text) (above : texts ≠ []) :
    lastName? (String.ofList (['/'].intercalate (texts ++ [name.toList]))) = some name := by
  have allApart : ∀ text ∈ texts ++ [name.toList], ∀ c ∈ text, c ∉ ['/'] := by
    intro text mem c hc slash
    rw [List.mem_singleton.mp slash] at hc
    rcases List.mem_append.mp mem with h | h
    · exact apart text h hc
    · rw [List.mem_singleton.mp h] at hc
      exact noSlash hc
  have split := Text.pieces_intercalate (by simp) (by simp) allApart
  rw [lastName?, String.toList_ofList, split]
  cases texts with
  | nil => exact absurd rfl above
  | cons first rest => simp [List.filter_append, filled]

theorem hasExtension_of_not_mem {cs : List Char} (h : '.' ∉ cs) : hasExtension cs = false := by
  induction cs with
  | nil => rfl
  | cons c cs ih =>
    obtain ⟨hc, hcs⟩ := not_or.mp (List.mem_cons.not.mp h)
    unfold hasExtension
    split
    · rename_i d rest same
      exact absurd (List.cons.inj same).1.symm hc
    · rename_i same
      obtain ⟨-, rfl⟩ := List.cons.inj same
      exact ih hcs
    · rfl

theorem isName_extended {name : String} (filled : name ≠ "") (noSlash : '/' ∉ name.toList) :
    Path.IsName (name ++ ".html") := by
  have long : 1 ≤ name.toList.length := List.length_pos_iff.mpr (by simpa using filled)
  have apart (other : String) (short : other.toList.length < 5) : name ++ ".html" ≠ other := by
    rintro rfl
    have extension : ".html".toList.length = 5 := rfl
    rw [String.toList_append, List.length_append] at short
    omega
  exact ⟨apart "" (by decide), by simpa using noSlash, apart "." (by decide),
    apart ".." (by decide)⟩

/-- The extension rule keeps a name from being one of the dots that lead elsewhere. -/
theorem isName_of_hasExtension {name : String} (filled : name ≠ "") (noSlash : '/' ∉ name.toList)
    (extension : hasExtension name.toList = true) : Path.IsName name := by
  refine ⟨filled, noSlash, ?_, ?_⟩
  · rintro rfl
    exact absurd extension (by decide)
  · rintro rfl
    exact absurd extension (by decide)

theorem isName_cacheName {url name : String} (h : cacheName? url = some name) :
    Path.IsName name := by
  obtain ⟨last, hlast, rfl⟩ := Option.map_eq_some_iff.mp h
  obtain ⟨filled, noSlash⟩ := lastName?_some hlast
  split
  · rename_i extension
    exact isName_of_hasExtension filled noSlash extension
  · exact isName_extended filled noSlash

/-! ### Paths -/

/-- A path under which some page is kept. -/
def FetchSettings.IsCachePath (settings : FetchSettings) (path : String) : Prop :=
  ∃ url, settings.cachePath url = .ok path

section

variable {settings : FetchSettings} {url path other : String}

theorem cachePath_ok :
    settings.cachePath url = .ok path ↔
      ∃ name, cacheName? url = some name ∧ path = Path.join settings.cacheDirectory name := by
  unfold FetchSettings.cachePath
  cases cacheName? url with
  | none => simp
  | some name => simp [eq_comm]

/-- A name without an extension is kept as a page of its own. -/
theorem cachePath_of_plain (settings : FetchSettings) {name : String} (filled : name ≠ "")
    (noSlash : '/' ∉ name.toList) (noDot : '.' ∉ name.toList) :
    Path.IsName (name ++ ".html") ∧ settings.cachePath ("https://h/" ++ name) =
      .ok (Path.join settings.cacheDirectory (name ++ ".html")) := by
  have written : "https://h/" ++ name =
      String.ofList (['/'].intercalate (["https:".toList, [], ['h']] ++ [name.toList])) := by
    rw [← String.toList_inj]
    simp [List.intercalate]
  have last : lastName? ("https://h/" ++ name) = some name := by
    rw [written]
    exact lastName?_of_pieces filled noSlash (by decide) (by simp)
  refine ⟨isName_extended filled noSlash, cachePath_ok.mpr ⟨name ++ ".html", ?_, rfl⟩⟩
  simp [cacheName?, last, hasExtension_of_not_mem noDot]

theorem FetchSettings.IsCachePath.name (h : settings.IsCachePath path) :
    ∃ name, Path.IsName name ∧ path = Path.join settings.cacheDirectory name := by
  obtain ⟨url, hpath⟩ := h
  obtain ⟨name, hname, rfl⟩ := cachePath_ok.mp hpath
  exact ⟨name, isName_cacheName hname, rfl⟩

theorem FetchSettings.IsCachePath.normal (h : settings.IsCachePath path) :
    Path.normal path = path := by
  obtain ⟨name, isName, rfl⟩ := h.name
  exact Path.normal_join isName _

theorem FetchSettings.IsCachePath.spot_ne_nil (h : settings.IsCachePath path) :
    Path.spot path ≠ [] := by
  obtain ⟨name, isName, rfl⟩ := h.name
  rw [Path.spot_join isName]
  simp

/-- Two paths in the cache do not lead to one file. -/
theorem FetchSettings.IsCachePath.spot_inj (h : settings.IsCachePath path)
    (h' : settings.IsCachePath other) (same : Path.spot path = Path.spot other) : path = other := by
  obtain ⟨name, isName, rfl⟩ := h.name
  obtain ⟨name', isName', rfl⟩ := h'.name
  rw [Path.spot_join isName, Path.spot_join isName', List.append_cancel_left_eq] at same
  rw [List.singleton_inj.mp same]

end

end RaggedTables.Web
