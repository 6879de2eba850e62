import RaggedTables.Proofs.Files.Agreement
import RaggedTables.Proofs.Web.Footprint
import RaggedTables.Proofs.Web.Runs

/-! What a fetcher can reach. The file of a page has a plain name, given by the last name in its
address, so it stands directly in the directory of the cache. Of all other files none is read,
written or removed, whatever addresses a run asks for. -/

namespace RaggedTables.Web

open FileTree (AgreeIn KeptOrMade)

/-! ### Names in addresses -/

/-- Behind some slash of the address stands another character than a slash. -/
def HasName (url : String) : Prop :=
  ∃ before c after, url.toList = before ++ '/' :: c :: after ∧ c ≠ '/'

/-- The address ends in a slash, the name, and perhaps more slashes. -/
structure LastName (url name : String) : Prop where
  filled : name ≠ ""
  noSlash : '/' ∉ name.toList
  ends : ∃ before n, url.toList = before ++ '/' :: (name.toList ++ List.replicate n '/')

/-- There is a dot before a letter, digit or underscore in the name. -/
def Extended (name : String) : Prop :=
  ∃ before c after, name.toList = before ++ '.' :: c :: after ∧ Text.isWord c = true

/-- The name of the file in which a page with that name is kept. -/
inductive KeptAs : String → String → Prop
  | same {name : String} (extended : Extended name) : KeptAs name name
  | page {name : String} (plain : ¬ Extended name) : KeptAs name (name ++ ".html")

theorem hasExtension_cons {first : Char} {rest : List Char} :
    hasExtension (first :: rest) = true ↔
      (first = '.' ∧ ∃ c after, rest = c :: after ∧ Text.isWord c = true) ∨
      hasExtension rest = true := by
  rw [hasExtension.eq_def (first :: rest)]
  split
  · rename_i c after split
    obtain ⟨rfl, rfl⟩ := List.cons.inj split
    simp
  · rename_i other rest' apart split
    obtain ⟨rfl, rfl⟩ := List.cons.inj split
    refine ⟨.inr, fun h => h.resolve_left ?_⟩
    rintro ⟨dot, c, after, split, -⟩
    exact apart c after dot split
  · rename_i split
    cases split

theorem hasExtension_iff {cs : List Char} :
    hasExtension cs = true ↔ ∃ before c after, cs = before ++ '.' :: c :: after ∧
    Text.isWord c = true := by
  induction cs with
  | nil => simp [hasExtension]
  | cons first rest ih =>
    rw [hasExtension_cons, ih]
    constructor
    · rintro (⟨rfl, c, after, rfl, word⟩ | ⟨before, c, after, rfl, word⟩)
      · exact ⟨[], c, after, rfl, word⟩
      · exact ⟨first :: before, c, after, rfl, word⟩
    · rintro ⟨before, c, after, split, word⟩
      cases before with
      | nil =>
        obtain ⟨rfl, rfl⟩ := List.cons.inj split
        exact .inl ⟨rfl, c, after, rfl, word⟩
      | cons other before =>
        obtain ⟨rfl, rfl⟩ := List.cons.inj split
        exact .inr ⟨before, c, after, rfl, word⟩

theorem keptAs_iff {name file : String} :
    KeptAs name file ↔ file = if hasExtension name.toList then name else name ++ ".html" := by
  have extended : hasExtension name.toList = true ↔ Extended name := hasExtension_iff
  constructor
  · intro h
    cases h with
    | same h => rw [if_pos (extended.mpr h)]
    | page h => rw [if_neg (extended.not.mpr h)]
  · rintro rfl
    split
    · rename_i h
      exact .same (extended.mp h)
    · rename_i h
      exact .page (extended.not.mp h)

/-- The pieces between slashes, where a name and slashes stand behind the last one before them. -/
theorem splitOn_behind (before : List Char) {name : List Char} (noSlash : '/' ∉ name) (n : Nat) :
    (before ++ '/' :: (name ++ List.replicate n '/')).splitOn '/' =
      before.splitOn '/' ++ name :: List.replicate n [] := by
  rw [List.splitOn_append_cons_self, List.append_cancel_left_eq]
  induction n with
  | zero => simp [List.splitOn_eq_singleton noSlash]
  | succ n ih =>
    calc (name ++ List.replicate (n + 1) '/').splitOn '/'
        = (name ++ List.replicate n '/' ++ '/' :: []).splitOn '/' := by
          rw [List.replicate_succ', List.append_assoc]
      _ = name :: List.replicate n [] ++ [[]] := by
          rw [List.splitOn_append_cons_self, ih, List.splitOn_nil]
      _ = name :: List.replicate (n + 1) [] := by rw [List.replicate_succ', List.cons_append]

theorem lastName?_eq (url : String) :
    lastName? url =
      ((url.toList.splitOn '/').tail.filter fun piece =>
        !piece.isEmpty).getLast?.map String.ofList := by
  rw [lastName?, Text.pieces_singleton]
  cases url.toList.splitOn '/' with
  | nil => rfl
  | cons first rest => rfl

theorem lastName?_eq_some {url name : String} : lastName? url = some name ↔ LastName url name := by
  rw [lastName?_eq]
  constructor
  · intro h
    obtain ⟨piece, last, rfl⟩ := Option.map_eq_some_iff.mp h
    obtain ⟨others, hothers⟩ := List.getLast?_eq_some_iff.mp last
    obtain ⟨front, back, htail, -, hback⟩ := List.filter_eq_append_iff.mp hothers
    obtain ⟨gap, rest, rfl, -, filled, hrest⟩ := List.filter_eq_cons_iff.mp hback
    have blank : rest = List.replicate rest.length [] := by
      apply List.eq_replicate_iff.mpr
      refine ⟨rfl, fun other mem => ?_⟩
      simpa using List.filter_eq_nil_iff.mp hrest other mem
    obtain ⟨first, tail, split⟩ := List.exists_cons_of_ne_nil (List.splitOn_ne_nil '/' url.toList)
    rw [split, List.tail_cons] at htail
    have pieces : url.toList.splitOn '/' = (first :: (front ++ gap)) ++ piece :: rest := by
      rw [split, htail]
      simp
    have apart : ∀ other ∈ (first :: (front ++ gap)) ++ piece :: rest, '/' ∉ other := by
      intro other mem
      rw [← pieces] at mem
      exact Text.not_mem_of_mem_splitOn mem
    have noSlash : '/' ∉ piece := apart piece (by simp)
    refine ⟨by simpa using filled, by simpa using noSlash,
      ['/'].intercalate (first :: (front ++ gap)), rest.length, ?_⟩
    have front_pieces :
        (['/'].intercalate (first :: (front ++ gap))).splitOn '/' = first :: (front ++ gap) :=
      List.splitOn_intercalate '/' (fun other mem => apart other (List.mem_append_left _ mem))
        (by simp)
    have same := splitOn_behind (['/'].intercalate (first :: (front ++ gap))) noSlash rest.length
    rw [front_pieces, ← blank, ← pieces] at same
    have whole : ['/'].intercalate (url.toList.splitOn '/') = url.toList :=
      List.intercalate_splitOn '/'
    rw [String.toList_ofList, ← whole, ← same, List.intercalate_splitOn]
  · rintro ⟨filled, noSlash, before, n, ends⟩
    obtain ⟨first, tail, split⟩ := List.exists_cons_of_ne_nil (List.splitOn_ne_nil '/' before)
    have blank :
      (List.replicate n ([] : List Char)).filter (fun piece => !piece.isEmpty) = [] := by simp
    rw [ends, splitOn_behind before noSlash n, split, List.cons_append, List.tail_cons,
      List.filter_append, List.filter_cons_of_pos (by simpa using filled), blank,
      List.getLast?_concat]
    simp

theorem hasName_iff {url : String} : HasName url ↔ ∃ name, LastName url name := by
  constructor
  · rintro ⟨before, c, after, split, apart⟩
    obtain ⟨first, tail, hbefore⟩ := List.exists_cons_of_ne_nil (List.splitOn_ne_nil '/' before)
    have filled : lastName? url ≠ none := by
      intro none
      rw [lastName?_eq, Option.map_eq_none_iff, List.getLast?_eq_none_iff, List.filter_eq_nil_iff,
        split, List.splitOn_append_cons_self, hbefore, List.cons_append, List.tail_cons] at none
      have blank : ((c :: after).splitOn '/').flatten = [] := by
        rw [List.flatten_eq_nil_iff]
        intro piece mem
        simpa using none piece (List.mem_append_right _ mem)
      rw [Text.flatten_splitOn, List.filter_cons_of_pos (by simpa using apart)] at blank
      cases blank
    obtain ⟨name, found⟩ := Option.ne_none_iff_exists'.mp filled
    exact ⟨name, lastName?_eq_some.mp found⟩
  · rintro ⟨name, filled, noSlash, before, n, ends⟩
    obtain ⟨c, rest, hname⟩ := List.exists_cons_of_ne_nil (l := name.toList) (by simpa using filled)
    refine ⟨before, c, rest ++ List.replicate n '/', by rw [ends, hname]; rfl, ?_⟩
    rintro rfl
    exact noSlash (by simp [hname])

theorem cacheName?_eq_some {url file : String} :
    cacheName? url = some file ↔ ∃ name, LastName url name ∧ KeptAs name file := by
  unfold cacheName?
  rw [Option.map_eq_some_iff]
  refine exists_congr fun name => ?_
  rw [lastName?_eq_some, keptAs_iff, eq_comm (a := file)]

section

variable {settings : FetchSettings} {url path : String}

theorem cachePath_error {fault : Fault} :
    settings.cachePath url = .error fault ↔ fault = .value (.noCacheName url) ∧ ¬ HasName url := by
  have named : cacheName? url = none ↔ ¬ HasName url := by
    rw [hasName_iff, cacheName?, Option.map_eq_none_iff, Option.eq_none_iff_forall_ne_some]
    simp only [ne_eq, lastName?_eq_some, not_exists]
  rw [← named]
  unfold FetchSettings.cachePath
  cases cacheName? url with
  | none => simp [eq_comm]
  | some file => simp

theorem cachePath_keptAs (settings : FetchSettings) {name file : String} (last : LastName url name)
    (kept : KeptAs name file) :
    settings.cachePath url = .ok (Path.join settings.cacheDirectory file) ∧ Path.IsName file := by
  have named : cacheName? url = some file := cacheName?_eq_some.mpr ⟨name, last, kept⟩
  exact ⟨cachePath_ok.mpr ⟨file, named, rfl⟩, isName_cacheName named⟩

/-- Two names in one directory are one path only if they are the same. -/
theorem join_inj {directory file file' : String} (isName : Path.IsName file)
    (isName' : Path.IsName file')
    (same : Path.join directory file = Path.join directory file') : file = file' := by
  have last := congrArg Path.last same
  rwa [Path.last_join isName, Path.last_join isName'] at last

/-! ### What a fetch looks at -/

/-- Two worlds with the same clock, web and client, whose files agree in a directory. -/
structure World.Like (directory : String) (one two : World) : Prop where
  others : two = { one with files := two.files }
  files : AgreeIn directory one.files two.files

variable {directory name : String} {one two : World}

theorem World.Like.refl (directory : String) (world : World) : World.Like directory world world :=
  ⟨rfl, .refl _ _⟩

theorem World.Like.of_files (world : World) {tree tree' : FileTree}
    (agree : AgreeIn directory tree tree') :
    World.Like directory { world with files := tree } { world with files := tree' } := ⟨rfl, agree⟩

theorem World.Like.exists_files (like : World.Like directory one two) :
    ∃ files, two = { one with files } ∧ AgreeIn directory one.files files :=
  ⟨two.files, like.others, like.files⟩

theorem World.Like.ask (like : World.Like directory one two) (url : String) :
    two.ask url = one.ask url := by
  obtain ⟨files, rfl, -⟩ := like.exists_files
  rfl

theorem World.Like.keep (like : World.Like directory one two) (isName : Path.IsName name)
    (text : String) :
    (two.keep (Path.join directory name) text).2 = (one.keep (Path.join directory name) text).2 ∧
      World.Like directory (one.keep (Path.join directory name) text).1
        (two.keep (Path.join directory name) text).1 := by
  obtain ⟨files, rfl, agree⟩ := like.exists_files
  unfold World.keep
  rw [Path.parent_join isName]
  have made := agree.makeDirectory
  dsimp only
  generalize one.files.makeDirectory (Path.normal directory) = made₁ at made
  generalize files.makeDirectory (Path.normal directory) = made₂ at made
  cases made with
  | failed fault =>
    dsimp only
    exact ⟨rfl, .of_files one agree.leftBehind⟩
  | @done tree tree' agree' =>
    dsimp only
    have written := agree'.write_join isName text one.now
    generalize tree.write (Path.join directory name) text one.now = written₁ at written
    generalize tree'.write (Path.join directory name) text one.now = written₂ at written
    cases written with
    | failed fault =>
      dsimp only
      exact ⟨rfl, .of_files one agree'⟩
    | done agree'' =>
      dsimp only
      exact ⟨rfl, .of_files one agree''⟩

theorem World.Like.isExpired (like : World.Like directory one two) (isName : Path.IsName name)
    (settings : FetchSettings) :
    settings.isExpired two (Path.join directory name) =
      settings.isExpired one (Path.join directory name) := by
  obtain ⟨files, rfl, agree⟩ := like.exists_files
  unfold FetchSettings.isExpired
  dsimp only
  rw [Path.normal_join isName, agree.place_join isName]
  cases found : one.files.place (Path.join directory name) with
  | error fault => rfl
  | ok spot => rw [ok_bind, ok_bind, agree.node?_join isName found]

/-- Two looks into the cache that fail in the same way, or find the same and leave worlds that are
alike. -/
inductive RecallsAlike (directory : String) :
    Except Fault (World × Option String) → Except Fault (World × Option String) → Prop
  | failed (fault : Fault) : RecallsAlike directory (.error fault) (.error fault)
  | found {one two : World} (like : World.Like directory one two) (text : Option String) :
      RecallsAlike directory (.ok (one, text)) (.ok (two, text))

theorem World.Like.recall (like : World.Like directory one two) (isName : Path.IsName name)
    (settings : FetchSettings) :
    RecallsAlike directory (settings.recall one (Path.join directory name))
      (settings.recall two (Path.join directory name)) := by
  unfold FetchSettings.recall
  have age := like.isExpired isName settings
  have present := like.files.present_join isName
  have read := like.files.read_join isName
  have removed := like.files.remove_join isName
  rw [present, age, read]
  cases one.files.present (Path.join directory name) with
  | error fault => exact .failed fault
  | ok there =>
    cases there with
    | false => exact .found like none
    | true =>
      rw [ok_bind, ok_bind, if_pos rfl, if_pos rfl]
      cases settings.isExpired one (Path.join directory name) with
      | error fault => exact .failed fault
      | ok old =>
        cases old with
        | false =>
          cases one.files.read (Path.join directory name) with
          | error fault => exact .failed fault
          | ok text => exact .found like (some text)
        | true =>
          rw [ok_bind, ok_bind, if_pos rfl, if_pos rfl]
          generalize one.files.remove (Path.join directory name) = removed₁ at removed
          generalize two.files.remove (Path.join directory name) = removed₂ at removed
          cases removed with
          | failed fault => exact .failed fault
          | @done tree tree' agree =>
            obtain ⟨files, rfl, -⟩ := like.exists_files
            exact .found (.of_files one agree) none

/-- Two calls with the same requests and the same outcome, which leave worlds that are alike. -/
structure Fetched.Like (directory : String) (one two : Fetched String) : Prop where
  world : World.Like directory one.world two.world
  requests : two.requests = one.requests
  outcome : two.outcome = one.outcome

theorem World.Like.load (like : World.Like directory one two) (isName : Path.IsName name)
    (url : String) :
    Fetched.Like directory (one.load url (some (Path.join directory name)))
      (two.load url (some (Path.join directory name))) := by
  have same := like.ask url
  cases asked : (one.ask url).2 with
  | error fault =>
    have asked' : (two.ask url).2 = .error fault := by rw [same, asked]
    rw [World.load_error asked, World.load_error asked', same]
    exact ⟨like, rfl, rfl⟩
  | ok text =>
    obtain ⟨outcome, worlds⟩ := like.keep isName text
    have asked' : (two.ask url).2 = .ok text := by rw [same, asked]
    rw [World.load_ok asked, World.load_ok asked', same, outcome]
    refine ⟨?_, rfl, rfl⟩
    dsimp only
    exact worlds

end

theorem fetchText_like {settings : FetchSettings} {one two : World}
    (like : World.Like settings.cacheDirectory one two) (url : String) (useCache : Option Bool) :
    Fetched.Like settings.cacheDirectory (settings.fetchText one url useCache)
      (settings.fetchText two url useCache) := by
  unfold FetchSettings.fetchText
  cases caching : useCache.getD settings.useCache with
  | false =>
    rw [Bool.not_false, if_pos rfl, if_pos rfl, World.load_none, World.load_none, like.ask url]
    exact ⟨like, rfl, rfl⟩
  | true =>
    rw [Bool.not_true, if_neg (by decide), if_neg (by decide)]
    cases hpath : settings.cachePath url with
    | error fault => exact ⟨like, rfl, rfl⟩
    | ok path =>
      obtain ⟨name, named, rfl⟩ := cachePath_ok.mp hpath
      have isName := isName_cacheName named
      have recalled := like.recall isName settings
      dsimp only
      generalize settings.recall one (Path.join settings.cacheDirectory name) =
        recalled₁ at recalled
      generalize settings.recall two (Path.join settings.cacheDirectory name) =
        recalled₂ at recalled
      cases recalled with
      | failed fault => exact ⟨like, rfl, rfl⟩
      | found like' text =>
        cases text with
        | some text => exact ⟨like', rfl, rfl⟩
        | none => exact like'.load isName url

/-! ### Runs -/

section

variable {settings : FetchSettings}

theorem step_like {one two : World} (like : World.Like settings.cacheDirectory one two)
    (event : WebEvent) :
    World.Like settings.cacheDirectory (settings.step one event) (settings.step two event) := by
  cases event with
  | fetch url useCache => exact (fetchText_like like url useCache).world
  | pass time =>
    obtain ⟨files, rfl, agree⟩ := like.exists_files
    exact .of_files { one with now := one.now + time } agree
  | change site =>
    obtain ⟨files, rfl, agree⟩ := like.exists_files
    exact .of_files { one with site } agree

theorem run_like {one two : World} (like : World.Like settings.cacheDirectory one two)
    (events : List WebEvent) :
    World.Like settings.cacheDirectory (settings.run one events) (settings.run two events) := by
  induction events generalizing one two with
  | nil => exact like
  | cons event rest ih => exact ih (step_like like event)

variable {place : List String}
  (outside : ∀ name, place ≠ Path.spot settings.cacheDirectory ++ [name])
include outside

theorem keptOrMade_cache (world : World) (url : String) (useCache : Option Bool) :
    KeptOrMade (some settings.cacheDirectory) place world.files
      (settings.fetchText world url useCache).world.files := by
  have apart : ∀ cache ∈ settings.cache? useCache, ∀ name, place ≠ Path.spot cache ++ [name] := by
    intro cache mem
    unfold FetchSettings.cache? at mem
    split at mem
    · obtain rfl := Option.mem_some.mp mem
      exact outside
    · cases mem
  rcases keptOrMade_fetchText settings world url useCache apart with same | ⟨absent, made, cache,
    mem, through⟩
  · exact .inl same
  · unfold FetchSettings.cache? at mem
    split at mem
    · exact .inr ⟨absent, made, cache, mem, through⟩
    · cases mem

theorem keptOrMade_fetchFile (world : World) (url path : String) (apart : place ≠ Path.spot path) :
    KeptOrMade (some settings.cacheDirectory) place world.files
      (settings.fetchFile world url path).world.files := by
  have fetched := keptOrMade_cache outside world url none
  unfold FetchSettings.fetchFile
  dsimp only
  cases (settings.fetchText world url none).outcome with
  | error fault => exact fetched
  | ok text =>
    dsimp only
    cases written : (settings.fetchText world url none).world.files.write path text
        (settings.fetchText world url none).world.now with
    | error fault => exact fetched
    | ok files => exact fetched.trans (FileTree.keptOrMade_write _ written apart)

theorem keptOrMade_run (start : World) (events : List WebEvent) :
    KeptOrMade (some settings.cacheDirectory) place start.files
      (settings.run start events).files := by
  induction events using List.reverseRecOn with
  | nil => exact .refl _ _ _
  | append_singleton events event ih =>
    rw [run_concat]
    refine ih.trans ?_
    cases event with
    | fetch url useCache => exact keptOrMade_cache outside (settings.run start events) url useCache
    | pass time => exact .refl _ _ _
    | change site => exact .refl _ _ _

end

/-- An address has no file for its page exactly if no name stands in it. Otherwise the file is named
by the last name, with an extension if that has none, and stands directly in the cache; two
addresses have one file exactly if it has one name. Whatever a run asks for, nothing changes outside
the cache but for directories on the way to it, and what other files hold changes nothing of the
run. -/
theorem cachePath_confined (settings : FetchSettings) :
    (∀ url, settings.cachePath url = .error (.value (.noCacheName url)) ↔ ¬ HasName url) ∧
    (∀ url, HasName url → ∃ name file, LastName url name ∧ KeptAs name file ∧ Path.IsName file ∧
      settings.cachePath url = .ok (Path.join settings.cacheDirectory file) ∧
      Path.parent (Path.join settings.cacheDirectory file) = Path.normal settings.cacheDirectory ∧
      Path.spot (Path.join settings.cacheDirectory file) =
        Path.spot settings.cacheDirectory ++ [file]) ∧
    (∀ url url' name name' file file', LastName url name → LastName url' name' →
      KeptAs name file → KeptAs name' file' →
      (settings.cachePath url = settings.cachePath url' ↔ file = file')) ∧
    (∀ place, (∀ name, place ≠ Path.spot settings.cacheDirectory ++ [name]) →
      (∀ start events,
        KeptOrMade (some settings.cacheDirectory) place start.files
          (settings.run start events).files) ∧
      ∀ world url path, place ≠ Path.spot path →
        KeptOrMade (some settings.cacheDirectory) place world.files
          (settings.fetchFile world url path).world.files) ∧
    ∀ one two, World.Like settings.cacheDirectory one two → ∀ events,
      World.Like settings.cacheDirectory (settings.run one events) (settings.run two events) ∧
      ∀ url useCache,
        (settings.fetchText (settings.run two events) url useCache).outcome =
          (settings.fetchText (settings.run one events) url useCache).outcome ∧
        (settings.fetchText (settings.run two events) url useCache).requests =
          (settings.fetchText (settings.run one events) url useCache).requests := by
  refine ⟨fun url => by simp [cachePath_error], ?_, ?_, ?_, ?_⟩
  · intro url named
    obtain ⟨name, last⟩ := hasName_iff.mp named
    obtain ⟨file, kept⟩ : ∃ file, KeptAs name file := ⟨_, keptAs_iff.mpr rfl⟩
    obtain ⟨path, isName⟩ := cachePath_keptAs settings last kept
    exact ⟨name, file, last, kept, isName, path, Path.parent_join isName _, Path.spot_join isName _⟩
  · intro url url' name name' file file' last last' kept kept'
    obtain ⟨path, isName⟩ := cachePath_keptAs settings last kept
    obtain ⟨path', isName'⟩ := cachePath_keptAs settings last' kept'
    rw [path, path']
    constructor
    · intro same
      exact join_inj isName isName' (Except.ok.inj same)
    · rintro rfl
      rfl
  · intro place outside
    exact ⟨keptOrMade_run outside, keptOrMade_fetchFile outside⟩
  · intro one two like events
    refine ⟨run_like like events, fun url useCache => ?_⟩
    have same := fetchText_like (run_like like events) url useCache
    exact ⟨same.outcome, same.requests⟩

/-- A file beside the cache. -/
def besideCache (bytes : List UInt8) : World :=
  { files := [(["cache"], .directory), (["passwd"], .file bytes 0)]
    now := 0
    site := [("http://h/x?back=/..//", .page 200 "one"), ("http://h/../passwd", .page 200 "two")] }

/-- Two dots at the end of an address are the start of a name, and a file beside the cache is
neither read nor changed. -/
theorem cachePath_confined_dots :
    LastName "http://h/x?back=/..//" ".." ∧ KeptAs ".." "...html" ∧
    FetchSettings.cachePath {} "http://h/x?back=/..//" = .ok "cache/...html" ∧
    HasName "http://h/x?back=/..//" ∧
    (∃ name file, LastName "http://h/x?back=/..//" name ∧ KeptAs name file ∧ Path.IsName file ∧
      FetchSettings.cachePath {} "http://h/x?back=/..//" = .ok (Path.join "cache" file) ∧
      Path.parent (Path.join "cache" file) = Path.normal "cache" ∧
      Path.spot (Path.join "cache" file) = Path.spot "cache" ++ [file]) ∧
    FetchSettings.cachePath {} "http://h/x?back=/..//" ≠
      FetchSettings.cachePath {} "http://h/../passwd" ∧
    (∀ name, ["passwd"] ≠ Path.spot "cache" ++ [name]) ∧
    (∀ events, KeptOrMade (some "cache") ["passwd"] (besideCache [1]).files
      (FetchSettings.run {} (besideCache [1]) events).files) ∧
    World.Like "cache" (besideCache [1]) (besideCache [2]) ∧
    ∀ events url useCache,
      (FetchSettings.fetchText {}
        (FetchSettings.run {} (besideCache [2]) events) url useCache).outcome =
        (FetchSettings.fetchText {}
          (FetchSettings.run {} (besideCache [1]) events) url useCache).outcome := by
  have last : LastName "http://h/x?back=/..//" ".." :=
    ⟨by decide, by decide, "http://h/x?back=".toList, 2, by decide⟩
  have other : LastName "http://h/../passwd" "passwd" :=
    ⟨by decide, by decide, "http://h/..".toList, 0, by decide⟩
  have dots : KeptAs ".." "...html" := keptAs_iff.mpr (by decide +kernel)
  have passwd : KeptAs "passwd" "passwd.html" := keptAs_iff.mpr (by decide +kernel)
  have spot : Path.spot "cache" = ["cache"] := by decide +kernel
  have outside : ∀ name, ["passwd"] ≠ Path.spot "cache" ++ [name] := by
    intro name
    rw [spot]
    simp
  have like : World.Like "cache" (besideCache [1]) (besideCache [2]) := by
    refine .of_files (besideCache [1]) ⟨fun place _ => ?_, fun name => ?_⟩
    · by_cases file : place = ["passwd"]
      · subst file
        rfl
      · cases place with
        | nil => rfl
        | cons first rest =>
          have apart : (["passwd"] == first :: rest) = false := by simpa using Ne.symm file
          simp [FileTree.isDirectory?, FileTree.node?, Fields.get?, apart]
    · rw [spot]
      simp [FileTree.node?, Fields.get?]
  have law := cachePath_confined {}
  have named : HasName "http://h/x?back=/..//" := hasName_iff.mpr ⟨_, last⟩
  exact ⟨last, dots, eq_ok_of_toOption (by decide +kernel), named, law.2.1 _ named,
    (law.2.2.1 _ _ _ _ _ _ last other dots passwd).not.mpr (by decide), outside,
    (law.2.2.2.1 _ outside).1 _, like, fun events url useCache =>
      ((law.2.2.2.2 _ _ like events).2 url useCache).1⟩

end RaggedTables.Web
