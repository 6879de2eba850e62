import RaggedTables.Proofs.Web.CacheName

/-! One call of a fetcher. A page that is kept and young enough answers without a request and
nothing changes; any other call asks the web, and what the web answers decides whether a page is
kept. -/

namespace RaggedTables.Web

open FileTree (Extends)

/-! ### What the web answers -/

/-- The web serves a text for an address, redirects followed, by a page that reports no error. -/
def World.Serves (world : World) (url text : String) : Prop :=
  ∃ requests status,
    request world.client world.site mostRedirects (world.client.requested url) =
      (requests, .response status text) ∧ status < 400

/-- The addresses that are requested for an address, and what comes of it. -/
inductive World.Asks (world : World) (url : String) : List String → Except Fault String → Prop
  | page {requests status text} (accepted : world.client.refusal? url = none)
      (opened : world.closed = false)
      (final : request world.client world.site mostRedirects (world.client.requested url) =
        (requests, .response status text))
      (good : status < 400) : Asks world url requests (.ok text)
  | errorPage {requests status text} (accepted : world.client.refusal? url = none)
      (opened : world.closed = false)
      (final : request world.client world.site mostRedirects (world.client.requested url) =
        (requests, .response status text)) (bad : 400 ≤ status) :
      Asks world url requests (.error (.report (.fetch url (some status) "")))
  | noResponse {requests reason} (accepted : world.client.refusal? url = none)
      (opened : world.closed = false)
      (final : request world.client world.site mostRedirects (world.client.requested url) =
        (requests, .failed reason)) :
      Asks world url requests (.error (.report (.fetch url none reason)))
  | malformed {reason} (refused : world.client.refusal? url = some reason) :
      Asks world url [] (.error (.badAddress reason))
  | closed (accepted : world.client.refusal? url = none) (shut : world.closed = true) :
      Asks world url [] (.error (.stopped "Cannot send a request, as the client has been closed."))

theorem World.ask_asks (world : World) (url : String) :
    world.Asks url (world.ask url).1 (world.ask url).2 := by
  unfold World.ask
  cases accepted : world.client.refusal? url with
  | some reason => exact .malformed accepted
  | none =>
    cases opened : world.closed with
    | true => exact .closed accepted opened
    | false =>
      cases final : request world.client world.site mostRedirects (world.client.requested url) with
      | mk requests reply =>
        cases reply with
        | failed reason => exact .noResponse accepted opened final
        | response status text =>
          by_cases bad : 400 ≤ status
          · simpa [Reply.text, bad] using Asks.errorPage accepted opened final bad
          · simpa [Reply.text, bad] using Asks.page accepted opened final (by omega)

theorem request_ne_nil (client : Client) (site : Site) (redirects : Nat) (url : String) :
    (request client site redirects url).1 ≠ [] := by
  cases redirects <;> unfold request <;> (split <;> try split) <;> (try split) <;> simp

theorem World.Asks.serves {world : World} {url text : String} {requests : List String}
    (h : world.Asks url requests (.ok text)) :
    requests ≠ [] ∧ world.Serves url text := by
  cases h with
  | page accepted opened final good =>
    have some := request_ne_nil world.client world.site mostRedirects (world.client.requested url)
    rw [final] at some
    exact ⟨some, _, _, final, good⟩

/-! ### The cache -/

/-- Caching is in effect for a call, and the page of its address is kept under `path`. -/
structure FetchSettings.KeptAt (settings : FetchSettings) (url : String) (useCache : Option Bool)
    (path : String) : Prop where
  caching : useCache.getD settings.useCache = true
  path : settings.cachePath url = .ok path

/-- A file stands under the path, and it is young enough to be used. -/
def FetchSettings.Fresh (settings : FetchSettings) (world : World) (path : String) : Prop :=
  ∃ bytes modified, world.files.file path = .ok (bytes, modified) ∧
    world.now < modified + settings.timeToLive

/-- A file stands under the path, and it is too old to be used. -/
def FetchSettings.Outdated (settings : FetchSettings) (world : World) (path : String) : Prop :=
  ∃ bytes modified, world.files.file path = .ok (bytes, modified) ∧
    modified + settings.timeToLive ≤ world.now

theorem FetchSettings.Outdated.not_fresh {settings : FetchSettings} {world : World} {path : String}
    (outdated : settings.Outdated world path) : ¬ settings.Fresh world path := by
  rintro ⟨bytes, modified, here, young⟩
  obtain ⟨bytes', modified', here', old⟩ := outdated
  rw [here] at here'
  obtain ⟨-, rfl⟩ := Prod.mk.inj (Except.ok.inj here')
  omega

/-- The cache directory is there or can be made, and then no directory stands where a page is kept.
-/
def FetchSettings.Usable (settings : FetchSettings) (tree : FileTree) : Prop :=
  ∃ files, tree.makeDirectory settings.cacheDirectory = .ok files ∧
    ∀ path, settings.IsCachePath path → files.hasDirectory path = false

/-- A name that a file can have: it is not too long, and it holds no null character. -/
structure FileName (name : String) : Prop where
  short : name.utf8ByteSize ≤ FileTree.longestName
  noNull : '\x00' ∉ name.toList

/-- The file of a path is gone; all else is as it was. -/
structure Dropped (before after : FileTree) (path : String) : Prop where
  gone : after.node? (Path.spot path) = none
  others : ∀ place, place ≠ Path.spot path → after.node? place = before.node? place

/-- The file of a path holds a text since `now`; all else is as it was, but for directories that
were made. -/
structure Keeps (before after : FileTree) (path text : String) (now : Int) : Prop where
  holds : after.file path = .ok (Utf8.encode text.toList, now)
  others : ∀ place, place ≠ Path.spot path →
    after.node? place = before.node? place ∨
      before.node? place = none ∧ after.node? place = some .directory

theorem Dropped.before {before after : FileTree} {path : String} {place : List String}
    {node : FileNode} (h : Dropped before after path) (there : after.node? place = some node) :
    before.node? place = some node := by
  by_cases same : place = Path.spot path
  · rw [same, h.gone] at there
    cases there
  · rw [← h.others place same, there]

theorem Keeps.node? {before after : FileTree} {path text : String} {now : Int}
    (h : Keeps before after path text now) :
    after.node? (Path.spot path) = some (.file (Utf8.encode text.toList) now) := by
  obtain ⟨spot, place, there⟩ := FileTree.file_ok.mp h.holds
  rw [FileTree.spot_of_place place, there]

theorem Keeps.before {before after : FileTree} {path text : String} {now : Int}
    {place : List String} {bytes : List UInt8} {modified : Int}
    (h : Keeps before after path text now) (apart : place ≠ Path.spot path)
    (there : after.node? place = some (.file bytes modified)) :
    before.node? place = some (.file bytes modified) := by
  rcases h.others place apart with same | ⟨-, made⟩
  · rw [← same, there]
  · rw [made] at there
    cases there

/-- What a call of a fetcher does. -/
inductive FetchSettings.Fetches (settings : FetchSettings) (world : World) (url : String)
    (useCache : Option Bool) : Fetched String → Prop
  /-- Without caching the web answers, and no file changes. -/
  | uncached {requests outcome} (off : useCache.getD settings.useCache = false)
      (asks : world.Asks url requests outcome) :
      Fetches settings world url useCache ⟨world, requests, outcome⟩
  /-- An address that gives no name for its page. -/
  | unnamed {fault} (caching : useCache.getD settings.useCache = true)
      (nameless : settings.cachePath url = .error fault) :
      Fetches settings world url useCache ⟨world, [], .error fault⟩
  /-- A fresh page answers without a request, and nothing changes. -/
  | reused {path} (kept : settings.KeptAt url useCache path) (fresh : settings.Fresh world path) :
      Fetches settings world url useCache ⟨world, [], world.files.read path⟩
  /-- The page that the web serves is kept. -/
  | stored {path requests text files} (kept : settings.KeptAt url useCache path)
      (stale : ¬ settings.Fresh world path) (asks : world.Asks url requests (.ok text))
      (keeps : Keeps world.files files path text world.now) :
      Fetches settings world url useCache ⟨{ world with files }, requests, .ok text⟩
  /-- The web serves no page, and nothing was kept before. -/
  | refused {path requests fault} (kept : settings.KeptAt url useCache path)
      (free : ∀ found, world.files.file path ≠ .ok found)
      (asks : world.Asks url requests (.error fault)) :
      Fetches settings world url useCache ⟨world, requests, .error fault⟩
  /-- The web serves no page, and the one that was kept is outdated. -/
  | dropped {path requests fault files} (kept : settings.KeptAt url useCache path)
      (outdated : settings.Outdated world path) (asks : world.Asks url requests (.error fault))
      (drops : Dropped world.files files path) :
      Fetches settings world url useCache ⟨{ world with files }, requests, .error fault⟩
  /-- No page can be kept: the cache is not usable, or the name of the file is none that files can
  have. -/
  | unkept {path requests fault files} (kept : settings.KeptAt url useCache path)
      (free : ∀ found, world.files.file path ≠ .ok found)
      (hindered : ¬ settings.Usable world.files ∨ ¬ FileName (Path.last path))
      (asked : requests = [] ∨ ∃ text, world.Asks url requests (.ok text))
      (grown : Extends world.files files) :
      Fetches settings world url useCache ⟨{ world with files }, requests, .error fault⟩

section

variable {settings : FetchSettings} {world : World} {url path : String}
  {useCache : Option Bool}

theorem FetchSettings.KeptAt.isCachePath (h : settings.KeptAt url useCache path) :
    settings.IsCachePath path := ⟨url, h.path⟩

theorem FetchSettings.KeptAt.unique {other : String} (h : settings.KeptAt url useCache path)
    (h' : settings.KeptAt url useCache other) : path = other :=
  Except.ok.inj (h.path.symm.trans h'.path)

/-- With the cache directory in place the cache is usable, if no directory stands where a page is
kept. -/
theorem FetchSettings.usable_of_hasDirectory {tree : FileTree}
    (there : tree.hasDirectory (Path.normal settings.cacheDirectory) = true)
    (apart : ∀ path, settings.IsCachePath path → tree.hasDirectory path = false) :
    settings.Usable tree :=
  ⟨tree, FileTree.makeDirectory_of_hasDirectory there, apart⟩

/-- No file stands under a path whose last name is none that files can have. -/
theorem file_of_not_fileName {tree : FileTree} (isCache : settings.IsCachePath path)
    (unfit : ¬ FileName (Path.last path)) (found : List UInt8 × Int) :
    tree.file path ≠ .ok found := by
  intro here
  obtain ⟨spot, place, -⟩ := FileTree.file_ok.mp here
  obtain ⟨name, isName, rfl⟩ := isCache.name
  obtain ⟨-, noNull, short, -⟩ := (FileTree.place_join isName).mp place
  rw [Path.last_join isName] at unfit
  exact unfit ⟨short, noNull⟩

/-! ### What the cache recalls -/

/-- What is found in the cache. -/
inductive FetchSettings.Recalls (settings : FetchSettings) (world : World) (path : String) :
    Except Fault (World × Option String) → Prop
  | reused {text} (fresh : settings.Fresh world path) (read : world.files.read path = .ok text) :
      Recalls settings world path (.ok (world, some text))
  | unreadable {fault} (fresh : settings.Fresh world path)
      (read : world.files.read path = .error fault) : Recalls settings world path (.error fault)
  | outdated (old : settings.Outdated world path) :
      Recalls settings world path
        (.ok ({ world with files := world.files.without (Path.spot path) }, none))
  | absent (free : ∀ spot, world.files.place path = .ok spot → world.files.node? spot = none) :
      Recalls settings world path (.ok (world, none))
  | directory {fault} (isDir : world.files.hasDirectory path = true) :
      Recalls settings world path (.error fault)
  | tooLong {fault name} (mem : name ∈ Path.names path)
      (long : FileTree.longestName < name.utf8ByteSize) : Recalls settings world path (.error fault)

theorem recalls_of_file {spot : List String} {bytes : List UInt8} {modified : Int}
    (normal : Path.normal path = path) (place : world.files.place path = .ok spot)
    (there : world.files.node? spot = some (.file bytes modified)) :
    settings.Recalls world path (settings.recall world path) := by
  have here : world.files.file path = .ok (bytes, modified) :=
    FileTree.file_ok.mpr ⟨spot, place, there⟩
  have present : world.files.present path = .ok true := by
    rw [FileTree.present_of_place (normal.symm ▸ place), there]
    rfl
  have age : settings.isExpired world path = .ok (settings.outdated modified world.now) := by
    unfold FetchSettings.isExpired
    dsimp only
    rw [normal, place, ok_bind, there]
    rfl
  unfold FetchSettings.recall
  rw [present, ok_bind, if_pos rfl, age, ok_bind]
  by_cases old : modified + settings.timeToLive ≤ world.now
  · have removed : world.files.remove path = .ok (world.files.without (Path.spot path)) := by
      rw [FileTree.remove_ok]
      exact ⟨spot, bytes, modified, place, there, by rw [FileTree.spot_of_place place]⟩
    simp only [FetchSettings.outdated, old, decide_true, if_true, removed]
    exact .outdated ⟨bytes, modified, here, old⟩
  · have fresh : settings.Fresh world path := ⟨bytes, modified, here, by omega⟩
    simp only [FetchSettings.outdated, old, decide_false, Bool.false_eq_true, if_false]
    cases read : world.files.read path with
    | ok text => exact .reused fresh read
    | error fault => exact .unreadable fresh read

theorem recalls_of_directory {spot : List String} (normal : Path.normal path = path)
    (place : world.files.place path = .ok spot)
    (there : world.files.node? spot = some .directory) :
    settings.Recalls world path (settings.recall world path) := by
  have present : world.files.present path = .ok true := by
    rw [FileTree.present_of_place (normal.symm ▸ place), there]
    rfl
  have age : settings.isExpired world path = .ok false := by
    unfold FetchSettings.isExpired
    dsimp only
    rw [normal, place, ok_bind, there]
    rfl
  have read : world.files.read path = .error (.file (FileTree.isDirectory path)) := by
    unfold FileTree.read FileTree.file
    rw [normal, place, ok_bind, there]
    rfl
  unfold FetchSettings.recall
  rw [present, ok_bind, if_pos rfl, age, ok_bind, if_neg (by decide), read]
  exact .directory (FileTree.hasDirectory_iff.mpr ⟨spot, place, there⟩)

theorem recall_recalls (settings : FetchSettings) (world : World)
    (normal : Path.normal path = path) :
    settings.Recalls world path (settings.recall world path) := by
  by_cases absent : ∀ spot, world.files.place path = .ok spot → world.files.node? spot = none
  · by_cases short : ∀ name ∈ Path.names path, name.utf8ByteSize ≤ FileTree.longestName
    · have present := FileTree.present_of_short short (normal.symm ▸ absent)
      unfold FetchSettings.recall
      rw [present]
      exact .absent absent
    · obtain ⟨name, mem, long⟩ : ∃ name ∈ Path.names path,
          FileTree.longestName < name.utf8ByteSize := by simpa using short
      unfold FetchSettings.recall
      cases present : world.files.present path with
      | error fault => exact .tooLong mem long
      | ok there =>
        cases there with
        | false => exact .absent absent
        | true =>
          exfalso
          unfold FileTree.present at present
          rw [normal] at present
          split at present
          · rename_i spot place
            simp [absent spot place] at present
          · split at present <;> simp at present
          · simp at present
          · simp at present
  · simp only [not_forall] at absent
    obtain ⟨spot, place, there⟩ := absent
    obtain ⟨node, there⟩ := Option.ne_none_iff_exists'.mp there
    cases node with
    | directory => exact recalls_of_directory normal place there
    | file bytes modified => exact recalls_of_file normal place there

/-! ### What a request leaves -/

theorem World.Asks.of_files {world : World} {url : String} {requests : List String}
    {outcome : Except Fault String} {files : FileTree} (h : world.Asks url requests outcome) :
    ({ world with files } : World).Asks url requests outcome := by
  cases h with
  | page accepted opened final good => exact .page accepted opened final good
  | errorPage accepted opened final bad => exact .errorPage accepted opened final bad
  | noResponse accepted opened final => exact .noResponse accepted opened final
  | malformed refused => exact .malformed refused
  | closed accepted shut => exact .closed accepted shut

theorem World.load_none (world : World) (url : String) :
    world.load url none = ⟨world, (world.ask url).1, (world.ask url).2⟩ := by
  unfold World.load
  cases asked : world.ask url with
  | mk requests outcome => cases outcome <;> rfl

theorem World.load_error {world : World} {url : String} {fault : Fault}
    (asked : (world.ask url).2 = .error fault) (cache : Option String) :
    world.load url cache = ⟨world, (world.ask url).1, .error fault⟩ := by
  have pair : world.ask url = ((world.ask url).1, .error fault) := by rw [← asked]
  unfold World.load
  rw [pair]

theorem World.load_ok {world : World} {url text : String} (asked : (world.ask url).2 = .ok text)
    (path : String) :
    world.load url (some path) =
      ⟨(world.keep path text).1, (world.ask url).1,
        (world.keep path text).2.map fun _ => text⟩ := by
  have pair : world.ask url = ((world.ask url).1, .ok text) := by rw [← asked]
  unfold World.load
  rw [pair]

/-- Where nothing can be kept, directories may have been made. -/
theorem World.keep_cases (world : World) (path text : String) :
    (∃ made files, world.files.makeDirectory (Path.parent path) = .ok made ∧
      made.write path text world.now = .ok files ∧
      world.keep path text = ({ world with files }, .ok ())) ∨
    ∃ files fault, Extends world.files files ∧
      world.keep path text = ({ world with files }, .error fault) ∧
      ∀ made, world.files.makeDirectory (Path.parent path) = .ok made →
        ∀ written, made.write path text world.now ≠ .ok written := by
  unfold World.keep
  cases hmade : world.files.makeDirectory (Path.parent path) with
  | error fault =>
    exact .inr ⟨_, fault, (FileTree.leftBehind_makesWay _ _).grown, rfl, by simp⟩
  | ok made =>
    dsimp only
    cases hwritten : made.write path text world.now with
    | ok files => exact .inl ⟨made, files, rfl, hwritten, rfl⟩
    | error fault =>
      refine .inr ⟨made, fault, (FileTree.makeDirectory_ok hmade).1, rfl, ?_⟩
      rintro _ ⟨⟩ written
      simp [hwritten]

/-- A text is kept in the file of its path. -/
theorem keeps_of_write {tree made files : FileTree} {now : Int} {text : String}
    (isCache : settings.IsCachePath path)
    (hmade : tree.makeDirectory settings.cacheDirectory = .ok made)
    (written : made.write path text now = .ok files) : Keeps tree files path text now := by
  have grown := (FileTree.makeDirectory_ok hmade).1
  have holds := FileTree.file_of_write written
  rw [isCache.normal] at holds
  refine ⟨holds, fun other apart => ?_⟩
  rw [FileTree.node?_write_of_ne written apart]
  exact grown other

/-- In a usable cache a page can be kept if its name is one that files can have. -/
theorem write_of_usable {tree : FileTree} (isCache : settings.IsCachePath path)
    (usable : settings.Usable tree) (fileName : FileName (Path.last path)) (text : String)
    (now : Int) :
    ∃ made files, tree.makeDirectory settings.cacheDirectory = .ok made ∧
      made.write path text now = .ok files := by
  obtain ⟨made, hmade, apart⟩ := usable
  have there := (FileTree.makeDirectory_ok hmade).2
  obtain ⟨name, isName, rfl⟩ := isCache.name
  rw [Path.last_join isName] at fileName
  have place := (FileTree.place_join isName).mpr ⟨there, fileName.noNull, fileName.short, rfl⟩
  have notDir : made.node? (Path.spot settings.cacheDirectory ++ [name]) ≠ some .directory := by
    intro isDir
    have := apart _ isCache
    rw [FileTree.hasDirectory_iff.mpr ⟨_, place, isDir⟩] at this
    cases this
  refine ⟨made, _, hmade, FileTree.write_ok.mpr ⟨_, ?_, notDir, rfl⟩⟩
  rw [isCache.normal]
  exact place

/-- Once an outdated page is removed, a page can be kept in its place. -/
theorem write_of_outdated (isCache : settings.IsCachePath path)
    (outdated : settings.Outdated world path) (text : String) :
    ∃ made files,
      (world.files.without (Path.spot path)).makeDirectory settings.cacheDirectory = .ok made ∧
        made.write path text world.now = .ok files := by
  obtain ⟨bytes, modified, here, -⟩ := outdated
  obtain ⟨spot, place, there⟩ := FileTree.file_ok.mp here
  obtain rfl := FileTree.spot_of_place place
  have directories : ∀ other, world.files.node? other = some .directory →
      (world.files.without (Path.spot path)).node? other = some .directory := by
    intro other isDir
    have apart : other ≠ Path.spot path := by
      rintro rfl
      rw [there] at isDir
      cases isDir
    rw [FileTree.node?_without_of_ne apart, isDir]
  have dir : (world.files.without (Path.spot path)).hasDirectory
      (Path.normal settings.cacheDirectory) = true := by
    obtain ⟨name, isName, rfl⟩ := isCache.name
    exact FileTree.hasDirectory_of_directories directories ((FileTree.place_join isName).mp place).1
  refine ⟨_, _, FileTree.makeDirectory_of_hasDirectory dir,
    FileTree.write_ok.mpr ⟨Path.spot path, ?_, ?_, rfl⟩⟩
  · rw [isCache.normal]
    exact FileTree.place_of_directories directories place
  · rw [FileTree.node?_without_self isCache.spot_ne_nil]
    simp

theorem makeDirectory_parent (isCache : settings.IsCachePath path) (tree : FileTree) :
    tree.makeDirectory (Path.parent path) = tree.makeDirectory settings.cacheDirectory := by
  obtain ⟨name, isName, rfl⟩ := isCache.name
  simp only [FileTree.makeDirectory, Path.parent_join isName, Path.normal_normal]

/-- A directory under the path of a page hinders the cache. -/
theorem not_usable_of_directory (isCache : settings.IsCachePath path) {tree : FileTree}
    (isDir : tree.hasDirectory path = true) : ¬ settings.Usable tree := by
  rintro ⟨made, hmade, apart⟩
  have after := FileTree.hasDirectory_of_directories
    (FileTree.makeDirectory_ok hmade).1.directories isDir
  rw [apart path isCache] at after
  cases after

/-- A name that is too long is the name of the page, or it stands above the cache. -/
theorem hindered_of_long {name : String} (isCache : settings.IsCachePath path)
    (mem : name ∈ Path.names path) (long : FileTree.longestName < name.utf8ByteSize)
    (tree : FileTree) :
    ¬ settings.Usable tree ∨ ¬ FileName (Path.last path) := by
  obtain ⟨last, isName, rfl⟩ := isCache.name
  rw [Path.last_join isName]
  rw [Path.names_join isName, List.mem_append, List.mem_singleton] at mem
  rcases mem with above | rfl
  · left
    rintro ⟨made, hmade, -⟩
    obtain ⟨spot, place, -⟩ := FileTree.hasDirectory_iff.mp (FileTree.makeDirectory_ok hmade).2
    have short := (FileTree.walk_ok (FileTree.place_ok.mp place).2).2
    rw [Path.names_normal] at short
    exact absurd (short name above) (Nat.not_le.mpr long)
  · exact .inr fun fileName => absurd fileName.short (Nat.not_le.mpr long)

/-! ### A call -/

/-- A page that was outdated is replaced, or it is gone. -/
theorem fetches_of_outdated (kept : settings.KeptAt url useCache path)
    (outdated : settings.Outdated world path) :
    settings.Fetches world url useCache
      (World.load { world with files := world.files.without (Path.spot path) } url path) := by
  have isCache := kept.isCachePath
  have stale := outdated.not_fresh
  set rest : World := { world with files := world.files.without (Path.spot path) } with hrest
  have asks : world.Asks url (rest.ask url).1 (rest.ask url).2 := (rest.ask_asks url).of_files
  cases asked : (rest.ask url).2 with
  | error fault =>
    rw [World.load_error asked, hrest]
    rw [asked] at asks
    exact .dropped kept outdated asks ⟨FileTree.node?_without_self isCache.spot_ne_nil,
      fun place apart => FileTree.node?_without_of_ne apart⟩
  | ok text =>
    rw [asked] at asks
    rw [World.load_ok asked]
    obtain ⟨made, files, hmade, written⟩ := write_of_outdated isCache outdated text
    rcases rest.keep_cases path text with ⟨made', files', hmade', written', h⟩ | ⟨_, _, -, -, none⟩
    · rw [makeDirectory_parent isCache] at hmade'
      have keeps := keeps_of_write isCache hmade' written'
      rw [h]
      refine .stored kept stale asks ⟨keeps.holds, fun place apart => ?_⟩
      have same := keeps.others place apart
      rwa [FileTree.node?_without_of_ne apart] at same
    · exact absurd written (none made (by rw [makeDirectory_parent isCache]; exact hmade) files)

/-- Where no page was kept, the one that is served is. -/
theorem fetches_of_absent (kept : settings.KeptAt url useCache path)
    (absent : ∀ spot, world.files.place path = .ok spot → world.files.node? spot = none) :
    settings.Fetches world url useCache (world.load url (some path)) := by
  have isCache := kept.isCachePath
  have free : ∀ found, world.files.file path ≠ .ok found := by
    rintro ⟨bytes, modified⟩ here
    obtain ⟨spot, place, there⟩ := FileTree.file_ok.mp here
    rw [absent spot place] at there
    cases there
  have stale : ¬ settings.Fresh world path := by
    rintro ⟨bytes, modified, here, -⟩
    exact free _ here
  have asks := world.ask_asks url
  cases asked : (world.ask url).2 with
  | error fault =>
    rw [asked] at asks
    rw [World.load_error asked]
    exact .refused kept free asks
  | ok text =>
    rw [asked] at asks
    rw [World.load_ok asked]
    rcases world.keep_cases path text with
      ⟨made, files, hmade, written, h⟩ | ⟨files, fault, grown, h, none⟩
    · rw [makeDirectory_parent isCache] at hmade
      rw [h]
      exact .stored kept stale asks (keeps_of_write isCache hmade written)
    · rw [h]
      refine .unkept kept free ?_ (.inr ⟨text, asks⟩) grown
      by_contra able
      obtain ⟨usable, fileName⟩ := not_or.mp able
      obtain ⟨made, written, hmade, hwritten⟩ := write_of_usable isCache (not_not.mp usable)
        (not_not.mp fileName) text world.now
      exact none made (by rw [makeDirectory_parent isCache, hmade]) written hwritten

theorem fetchText_fetches (settings : FetchSettings) (world : World) (url : String)
    (useCache : Option Bool) :
    settings.Fetches world url useCache (settings.fetchText world url useCache) := by
  unfold FetchSettings.fetchText
  cases caching : useCache.getD settings.useCache with
  | false =>
    rw [Bool.not_false, if_pos rfl, World.load_none]
    exact .uncached caching (world.ask_asks url)
  | true =>
    rw [Bool.not_true, if_neg (by decide)]
    cases hpath : settings.cachePath url with
    | error fault => exact .unnamed caching hpath
    | ok path =>
      have kept : settings.KeptAt url useCache path := ⟨caching, hpath⟩
      have isCache := kept.isCachePath
      have recalls := recall_recalls settings world isCache.normal
      dsimp only
      generalize settings.recall world path = recalled at recalls
      cases recalls with
      | reused fresh read | unreadable fresh read =>
        have reused := FetchSettings.Fetches.reused kept fresh
        rwa [read] at reused
      | outdated old => exact fetches_of_outdated kept old
      | absent free => exact fetches_of_absent kept free
      | directory isDir =>
        exact .unkept kept (FileTree.file_of_hasDirectory isDir)
          (.inl (not_usable_of_directory isCache isDir)) (.inl rfl) (.refl _)
      | tooLong mem long =>
        exact .unkept kept (FileTree.file_of_long mem long) (hindered_of_long isCache mem long _)
          (.inl rfl) (.refl _)

/-- No page is answered that could not be kept for its name. -/
theorem fetchText_of_not_fileName (kept : settings.KeptAt url useCache path)
    (unfit : ¬ FileName (Path.last path)) (text : String) :
    (settings.fetchText world url useCache).outcome ≠ .ok text := by
  have fetches := fetchText_fetches settings world url useCache
  generalize settings.fetchText world url useCache = fetched at fetches
  have isCache := kept.isCachePath
  cases fetches with
  | uncached off asks =>
    rw [kept.caching] at off
    cases off
  | unnamed caching nameless => nofun
  | reused kept' fresh =>
    obtain ⟨bytes, modified, here, -⟩ := fresh
    rw [← kept.unique kept'] at here
    exact absurd here (file_of_not_fileName isCache unfit _)
  | stored kept' stale asks keeps =>
    have here := keeps.holds
    rw [← kept.unique kept'] at here
    exact absurd here (file_of_not_fileName isCache unfit _)
  | refused kept free asks => nofun
  | dropped kept outdated asks drops => nofun
  | unkept kept free hindered asked grown => nofun

end

end RaggedTables.Web
