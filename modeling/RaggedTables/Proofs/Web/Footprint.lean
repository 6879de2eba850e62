import RaggedTables.Proofs.Web.Fetching

/-! What a fetch touches: the file in which the page of its address is kept, and directories on the
way to the cache. -/

namespace RaggedTables.Web

open FileTree (KeptOrMade)

/-- The directory in which pages are kept, if they are. -/
def FetchSettings.cache? (settings : FetchSettings) (useCache : Option Bool) : Option String :=
  if useCache.getD settings.useCache then some settings.cacheDirectory else none

section

variable {settings : FetchSettings} {world : World} {url path : String} {place : List String}

/-- A place that is not directly in the cache is none at which a page is kept. -/
theorem ne_spot_of_outside (isCache : settings.IsCachePath path)
    (outside : ∀ name, place ≠ Path.spot settings.cacheDirectory ++ [name]) :
    place ≠ Path.spot path := by
  obtain ⟨name, isName, rfl⟩ := isCache.name
  rw [Path.spot_join isName]
  exact outside name

theorem makesWay_parent (isCache : settings.IsCachePath path) {before after : FileTree}
    (h : FileTree.MakesWay (Path.parent path) before after) :
    FileTree.MakesWay settings.cacheDirectory before after := by
  obtain ⟨name, isName, rfl⟩ := isCache.name
  rw [Path.parent_join isName] at h
  exact FileTree.makesWay_normal.mp h

theorem keptOrMade_keep (isCache : settings.IsCachePath path) (text : String)
    (apart : place ≠ Path.spot path) :
    KeptOrMade (some settings.cacheDirectory) place world.files
      (world.keep path text).1.files := by
  unfold World.keep
  cases hmade : world.files.makeDirectory (Path.parent path) with
  | error fault =>
    have way := FileTree.leftBehind_makesWay world.files (Path.parent path)
    dsimp only
    exact (makesWay_parent isCache way).keptOrMade place
  | ok made =>
    have way := (makesWay_parent isCache (FileTree.makeDirectory_makesWay hmade)).keptOrMade place
    dsimp only
    cases hwritten : made.write path text world.now with
    | error fault => exact way
    | ok written => exact way.trans (FileTree.keptOrMade_write _ hwritten apart)

theorem keptOrMade_load (isCache : settings.IsCachePath path) (apart : place ≠ Path.spot path) :
    KeptOrMade (some settings.cacheDirectory) place world.files
      (world.load url (some path)).world.files := by
  cases asked : (world.ask url).2 with
  | error fault =>
    rw [World.load_error asked]
    exact .refl _ _ _
  | ok text =>
    rw [World.load_ok asked]
    dsimp only
    exact keptOrMade_keep isCache text apart

end

/-- A place that is not directly in the cache is left as it is by a fetch, but for directories that
are made on the way to the cache. -/
theorem keptOrMade_fetchText (settings : FetchSettings) (world : World) (url : String)
    (useCache : Option Bool) {place : List String}
    (outside : ∀ cache ∈ settings.cache? useCache, ∀ name, place ≠ Path.spot cache ++ [name]) :
    KeptOrMade (settings.cache? useCache) place world.files
      (settings.fetchText world url useCache).world.files := by
  unfold FetchSettings.fetchText
  cases caching : useCache.getD settings.useCache with
  | false =>
    rw [Bool.not_false, if_pos rfl, World.load_none]
    exact .refl _ _ _
  | true =>
    have cached : settings.cache? useCache = some settings.cacheDirectory := by
      rw [FetchSettings.cache?, caching, if_pos rfl]
    rw [cached] at outside ⊢
    rw [Bool.not_true, if_neg (by decide)]
    cases hpath : settings.cachePath url with
    | error fault => exact .refl _ _ _
    | ok path =>
      have isCache : settings.IsCachePath path := ⟨url, hpath⟩
      have apart := ne_spot_of_outside isCache (outside _ rfl)
      have recalls := recall_recalls settings world isCache.normal
      dsimp only
      generalize settings.recall world path = recalled at recalls
      cases recalls with
      | outdated old =>
        have dropped : KeptOrMade (some settings.cacheDirectory) place world.files
            (world.files.without (Path.spot path)) := .inl (FileTree.node?_without_of_ne apart)
        exact dropped.trans (keptOrMade_load isCache apart)
      | absent free => exact keptOrMade_load isCache apart
      | _ => exact .refl _ _ _

/-! ### Fetching into a file -/

section

variable {settings : FetchSettings} {world : World} {url path : String}

/-- A fetch into a file that succeeds has written the whole text that was fetched. -/
theorem fetchFile_ok (h : (settings.fetchFile world url path).outcome = .ok ()) :
    ∃ text, (settings.fetchText world url none).outcome = .ok text ∧
      ∃ modified, (settings.fetchFile world url path).world.files.node? (Path.spot path) =
        some (.file (Utf8.encode text.toList) modified) := by
  unfold FetchSettings.fetchFile at h ⊢
  dsimp only at h ⊢
  cases fetched : (settings.fetchText world url none).outcome with
  | error fault =>
    rw [fetched] at h
    cases h
  | ok text =>
    rw [fetched] at h
    dsimp only at h ⊢
    cases written : (settings.fetchText world url none).world.files.write path text
        (settings.fetchText world url none).world.now with
    | error fault =>
      rw [written] at h
      cases h
    | ok files => exact ⟨text, rfl, _, FileTree.node?_of_write written⟩

/-- One that fails leaves what the fetch has left. -/
theorem fetchFile_error {fault : Fault}
    (h : (settings.fetchFile world url path).outcome = .error fault) :
    (settings.fetchFile world url path).world = (settings.fetchText world url none).world := by
  unfold FetchSettings.fetchFile at h ⊢
  dsimp only at h ⊢
  cases fetched : (settings.fetchText world url none).outcome with
  | error fault => rfl
  | ok text =>
    rw [fetched] at h
    dsimp only at h ⊢
    cases written : (settings.fetchText world url none).world.files.write path text
        (settings.fetchText world url none).world.now with
    | error fault => rfl
    | ok files =>
      rw [written] at h
      cases h

end

end RaggedTables.Web
