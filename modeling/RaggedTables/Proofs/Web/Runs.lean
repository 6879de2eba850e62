import RaggedTables.Proofs.Web.Fetching

/-! Runs of a fetcher: calls, while time passes and pages change. A file in the cache holds the page
that was stored there last, and an answer without a request is that page, read again while it is
young. -/

namespace RaggedTables.Web

/-- What happens in a run: a call, a while that passes, or a change of what the web answers. -/
inductive WebEvent where
  | fetch (url : String) (useCache : Option Bool)
  | pass (time : Nat)
  | change (site : Site)

def FetchSettings.step (settings : FetchSettings) (world : World) : WebEvent → World
  | .fetch url useCache => (settings.fetchText world url useCache).world
  | .pass time => { world with now := world.now + time }
  | .change site => { world with site }

def FetchSettings.run (settings : FetchSettings) (start : World) (events : List WebEvent) : World :=
  events.foldl settings.step start

/-- Nothing stands where pages are kept. -/
def FetchSettings.EmptyCache (settings : FetchSettings) (files : FileTree) : Prop :=
  ∀ path, settings.IsCachePath path → files.node? (Path.spot path) = none

/-- A call that keeps under a path a page that the web serves. -/
structure FetchSettings.Stores (settings : FetchSettings) (world : World) (url : String)
    (useCache : Option Bool) (path text : String) : Prop where
  kept : settings.KeptAt url useCache path
  requested : (settings.fetchText world url useCache).requests ≠ []
  answered : (settings.fetchText world url useCache).outcome = .ok text
  served : world.Serves url text

theorem stores_iff {settings : FetchSettings} {world : World} {url : String}
    {useCache : Option Bool} {path text : String} :
    settings.Stores world url useCache path text ↔
      settings.KeptAt url useCache path ∧
        (settings.fetchText world url useCache).requests ≠ [] ∧
        (settings.fetchText world url useCache).outcome = .ok text ∧ world.Serves url text :=
  ⟨fun h => ⟨h.kept, h.requested, h.answered, h.served⟩,
    fun ⟨kept, requested, answered, served⟩ => ⟨kept, requested, answered, served⟩⟩

/-- The text that was stored last under a path, and when. -/
inductive FetchSettings.LastStored (settings : FetchSettings) (start : World) (path : String) :
    List WebEvent → String → Int → Prop
  | now {events url useCache text}
      (stores : settings.Stores (settings.run start events) url useCache path text) :
      LastStored settings start path (events ++ [.fetch url useCache]) text
        (settings.run start events).now
  | before {events event text time} (stored : LastStored settings start path events text time)
      (other : ∀ url useCache text', event = .fetch url useCache →
        ¬ settings.Stores (settings.run start events) url useCache path text') :
      LastStored settings start path (events ++ [event]) text time

section

variable {settings : FetchSettings} {start world : World} {url path : String}
  {useCache : Option Bool} {events : List WebEvent}

theorem run_concat (settings : FetchSettings) (start : World) (events : List WebEvent)
    (event : WebEvent) :
    settings.run start (events ++ [event]) = settings.step (settings.run start events) event := by
  simp [FetchSettings.run]

/-! ### One call -/

/-- An answer without a request is a fresh page. -/
theorem fetchText_reused {answer : String}
    (silent : (settings.fetchText world url useCache).requests = [])
    (answered : (settings.fetchText world url useCache).outcome = .ok answer) :
    ∃ path, settings.KeptAt url useCache path ∧ settings.Fresh world path ∧
      world.files.read path = .ok answer := by
  have fetches := fetchText_fetches settings world url useCache
  generalize settings.fetchText world url useCache = fetched at fetches silent answered
  cases fetches with
  | uncached off asks =>
    dsimp only at silent answered
    rw [answered] at asks
    exact absurd silent asks.serves.1
  | unnamed caching nameless => cases answered
  | reused kept fresh => exact ⟨_, kept, fresh, answered⟩
  | stored kept stale asks keeps => exact absurd silent asks.serves.1
  | refused kept free asks => cases answered
  | dropped kept outdated asks drops => cases answered
  | unkept kept free hindered asked grown => cases answered

/-- An answer of the web is what it serves at that moment. -/
theorem fetchText_served {answer : String}
    (asked : (settings.fetchText world url useCache).requests ≠ [])
    (answered : (settings.fetchText world url useCache).outcome = .ok answer) :
    world.Serves url answer := by
  have fetches := fetchText_fetches settings world url useCache
  generalize settings.fetchText world url useCache = fetched at fetches asked answered
  cases fetches with
  | uncached off asks =>
    dsimp only at answered
    rw [answered] at asks
    exact asks.serves.2
  | unnamed caching nameless => cases answered
  | reused kept fresh => exact absurd rfl asked
  | stored kept stale asks keeps =>
    obtain rfl := Except.ok.inj answered
    exact asks.serves.2
  | refused kept free asks => cases answered
  | dropped kept outdated asks drops => cases answered
  | unkept kept free hindered asked grown => cases answered

/-- A file that is in the cache after a call was stored by it, or was there before and nothing was
stored in its place. -/
theorem file_of_fetch {bytes : List UInt8} {modified : Int} (isCache : settings.IsCachePath path)
    (there : (settings.fetchText world url useCache).world.files.node? (Path.spot path) =
      some (.file bytes modified)) :
    (∃ text, settings.Stores world url useCache path text ∧ bytes = Utf8.encode text.toList ∧
      modified = world.now) ∨
    world.files.node? (Path.spot path) = some (.file bytes modified) ∧
      ∀ text, ¬ settings.Stores world url useCache path text := by
  have fetches := fetchText_fetches settings world url useCache
  simp only [stores_iff]
  generalize settings.fetchText world url useCache = fetched at fetches there ⊢
  cases fetches with
  | uncached off asks =>
    refine .inr ⟨there, ?_⟩
    rintro text ⟨kept, -⟩
    rw [kept.caching] at off
    cases off
  | unnamed caching nameless =>
    refine .inr ⟨there, ?_⟩
    rintro text ⟨kept, -⟩
    rw [kept.path] at nameless
    cases nameless
  | reused kept fresh => exact .inr ⟨there, fun text h => h.2.1 rfl⟩
  | @stored path' requests text files kept stale asks keeps =>
    obtain ⟨requested, served⟩ := asks.serves
    by_cases same : path = path'
    · subst same
      rw [keeps.node?] at there
      obtain ⟨rfl, rfl⟩ := FileNode.file.inj (Option.some.inj there)
      exact .inl ⟨text, ⟨kept, requested, rfl, served⟩, rfl, rfl⟩
    · have apart : Path.spot path ≠ Path.spot path' :=
        fun e => same (isCache.spot_inj kept.isCachePath e)
      exact .inr ⟨keeps.before apart there, fun text h => same (h.1.unique kept)⟩
  | refused kept free asks => exact .inr ⟨there, fun text h => nomatch h.2.2.1⟩
  | dropped kept outdated asks drops =>
    exact .inr ⟨drops.before there, fun text h => nomatch h.2.2.1⟩
  | unkept kept free hindered asked grown =>
    exact .inr ⟨grown.file_iff.mp there, fun text h => nomatch h.2.2.1⟩

/-! ### Runs -/

/-- Whatever happens, a file in the cache holds what was stored last under its path: a call that
stores leaves its own page, any other event an earlier one. -/
theorem file_of_run (empty : settings.EmptyCache start.files) (isCache : settings.IsCachePath path)
    {bytes : List UInt8} {modified : Int}
    (there : (settings.run start events).files.node? (Path.spot path) =
      some (.file bytes modified)) :
    ∃ text, bytes = Utf8.encode text.toList ∧
      settings.LastStored start path events text modified := by
  induction events using List.reverseRecOn generalizing bytes modified with
  | nil =>
    have none := empty path isCache
    rw [show settings.run start [] = start from rfl, none] at there
    cases there
  | append_singleton events event ih =>
    rw [run_concat] at there
    cases event with
    | fetch url useCache =>
      rcases file_of_fetch isCache there with ⟨text, stores, rfl, rfl⟩ | ⟨before, none⟩
      · exact ⟨text, rfl, .now stores⟩
      · obtain ⟨text, rfl, stored⟩ := ih before
        refine ⟨text, rfl, .before stored ?_⟩
        rintro _ _ text' ⟨⟩
        exact none text'
    | pass time =>
      obtain ⟨text, rfl, stored⟩ := ih there
      exact ⟨text, rfl, .before stored nofun⟩
    | change site =>
      obtain ⟨text, rfl, stored⟩ := ih there
      exact ⟨text, rfl, .before stored nofun⟩

/-- What was stored last was stored by one of the calls. -/
theorem FetchSettings.LastStored.call {text : String} {time : Int}
    (h : settings.LastStored start path events text time) :
    ∃ earlier url useCache later, events = earlier ++ .fetch url useCache :: later ∧
      settings.Stores (settings.run start earlier) url useCache path text ∧
      time = (settings.run start earlier).now := by
  induction h with
  | now stores => exact ⟨_, _, _, [], rfl, stores, rfl⟩
  | @before events event text time stored other ih =>
    obtain ⟨earlier, url, useCache, later, rfl, stores, rfl⟩ := ih
    exact ⟨earlier, url, useCache, later ++ [event], by simp, stores, rfl⟩

/-- An answer without a request is read from the file of its address, which still holds what was
stored there last, not long ago. -/
theorem stored_of_silent (empty : settings.EmptyCache start.files) {answer : String}
    (silent : (settings.fetchText (settings.run start events) url useCache).requests = [])
    (answered : (settings.fetchText (settings.run start events) url useCache).outcome =
      .ok answer) :
    ∃ path text time, settings.KeptAt url useCache path ∧
      settings.LastStored start path events text time ∧
      (settings.run start events).now < time + settings.timeToLive ∧
      (settings.run start events).files.file path = .ok (Utf8.encode text.toList, time) ∧
      (settings.run start events).files.read path = .ok answer := by
  obtain ⟨path, kept, ⟨bytes, modified, here, young⟩, read⟩ := fetchText_reused silent answered
  obtain ⟨spot, place, there⟩ := FileTree.file_ok.mp here
  rw [← FileTree.spot_of_place place] at there
  obtain ⟨text, rfl, stored⟩ := file_of_run empty kept.isCachePath there
  exact ⟨path, text, modified, kept, stored, young, here, read⟩

/-- A cached page is read back with its line ends unified. -/
theorem eq_unifyLines_of_read {tree : FileTree} {text answer : String} {time : Int}
    (isCache : settings.IsCachePath path)
    (here : tree.file path = .ok (Utf8.encode text.toList, time))
    (read : tree.read path = .ok answer) :
    answer = String.ofList (Utf8.unifyLines text.toList) := by
  rw [FileTree.read_of_file (isCache.normal.symm ▸ here), FileTree.textOf_encode] at read
  exact (Except.ok.inj read).symm

theorem recalled_of_run (empty : settings.EmptyCache start.files) {answer : String}
    (silent : (settings.fetchText (settings.run start events) url useCache).requests = [])
    (answered : (settings.fetchText (settings.run start events) url useCache).outcome =
      .ok answer) :
    ∃ path text time, settings.KeptAt url useCache path ∧
      settings.LastStored start path events text time ∧
      (settings.run start events).now < time + settings.timeToLive ∧
      answer = String.ofList (Utf8.unifyLines text.toList) := by
  obtain ⟨path, text, time, kept, stored, young, here, read⟩ :=
    stored_of_silent empty silent answered
  exact ⟨path, text, time, kept, stored, young, eq_unifyLines_of_read kept.isCachePath here read⟩

/-- What a call does, whatever the files, the time and the web are; and from an empty cache on, what
is in the cache after any run and where an answer without a request comes from. -/
theorem fetchText_law (settings : FetchSettings) :
    (∀ world url useCache,
      settings.Fetches world url useCache (settings.fetchText world url useCache)) ∧
    ∀ start, settings.EmptyCache start.files → ∀ events,
      (∀ path bytes modified, settings.IsCachePath path →
        (settings.run start events).files.file path = .ok (bytes, modified) →
        ∃ text, bytes = Utf8.encode text.toList ∧
          settings.LastStored start path events text modified) ∧
      ∀ url useCache answer,
        (settings.fetchText (settings.run start events) url useCache).requests = [] →
        (settings.fetchText (settings.run start events) url useCache).outcome = .ok answer →
        ∃ path text time, settings.KeptAt url useCache path ∧
          settings.LastStored start path events text time ∧
          (settings.run start events).now < time + settings.timeToLive ∧
          answer = String.ofList (Utf8.unifyLines text.toList) := by
  refine ⟨fetchText_fetches settings, fun start empty events => ⟨?_, ?_⟩⟩
  · intro path bytes modified isCache here
    obtain ⟨spot, place, there⟩ := FileTree.file_ok.mp here
    rw [← FileTree.spot_of_place place] at there
    exact file_of_run empty isCache there
  · intro url useCache answer silent answered
    exact recalled_of_run empty silent answered

end

theorem emptyCache_nil (settings : FetchSettings) : settings.EmptyCache [] := by
  intro path isCache
  rw [FileTree.node?_of_ne isCache.spot_ne_nil]
  rfl

/-- Two addresses with the same last name, and one whose page has a carriage return. -/
def sharedName : World :=
  { files := []
    now := 0
    site := [("http://h/a/x", .page 200 "one"), ("http://h/b/x", .page 200 "two"),
      ("http://h/y", .page 200 "a\x0d\nb")] }

/-- A page is fetched, three seconds pass, and then the web serves nothing any more. -/
def lostPage : List WebEvent :=
  [.fetch "http://h/a/x" none, .pass 3000000, .change []]

/-- The answer without a request and the file that it comes from. -/
theorem fetchText_law_lost :
    FetchSettings.EmptyCache {} sharedName.files ∧
    FetchSettings.IsCachePath {} "cache/x.html" ∧
    (FetchSettings.run {} sharedName lostPage).files.file "cache/x.html" =
      .ok (Utf8.encode "one".toList, 0) ∧
    (∃ text, Utf8.encode "one".toList = Utf8.encode text.toList ∧
      FetchSettings.LastStored {} sharedName "cache/x.html" lostPage text 0) ∧
    (FetchSettings.fetchText {} (FetchSettings.run {} sharedName lostPage) "http://h/a/x"
      none).requests = [] ∧
    (FetchSettings.fetchText {} (FetchSettings.run {} sharedName lostPage) "http://h/a/x"
      none).outcome = .ok "one" ∧
    ∃ path text time, FetchSettings.KeptAt {} "http://h/a/x" none path ∧
      FetchSettings.LastStored {} sharedName path lostPage text time ∧
      (FetchSettings.run {} sharedName lostPage).now < time + FetchSettings.timeToLive {} ∧
      "one" = String.ofList (Utf8.unifyLines text.toList) := by
  have empty := emptyCache_nil {}
  have law := (fetchText_law {}).2 sharedName empty lostPage
  have isCache : FetchSettings.IsCachePath {} "cache/x.html" :=
    ⟨"http://h/a/x", eq_ok_of_toOption (by decide +kernel)⟩
  have here : (FetchSettings.run {} sharedName lostPage).files.file "cache/x.html" =
      .ok (Utf8.encode "one".toList, 0) := eq_ok_of_toOption (by decide +kernel)
  have silent : (FetchSettings.fetchText {} (FetchSettings.run {} sharedName lostPage)
      "http://h/a/x" none).requests = [] := by decide +kernel
  have answered : (FetchSettings.fetchText {} (FetchSettings.run {} sharedName lostPage)
      "http://h/a/x" none).outcome = .ok "one" := eq_ok_of_toOption (by decide +kernel)
  exact ⟨empty, isCache, here, law.1 _ _ _ isCache here, silent, answered,
    law.2 _ _ _ silent answered⟩

/-- A cache without files, and a page that the web serves. -/
def onePage (url text : String) : World :=
  { files := [(["cache"], .directory)]
    now := 0
    site := [((Address.requested url).text, .page 200 text)] }

theorem usable_onePage (url text : String) : FetchSettings.Usable {} (onePage url text).files := by
  refine FetchSettings.usable_of_hasDirectory ?_ fun path isCache => ?_
  · have there : FileTree.hasDirectory [(["cache"], .directory)] (Path.normal "cache") = true := by
      decide +kernel
    exact there
  · obtain ⟨name, isName, rfl⟩ := isCache.name
    have here : Path.spot (FetchSettings.cacheDirectory {}) = ["cache"] := by decide +kernel
    by_contra isDir
    obtain ⟨spot, place, there⟩ := FileTree.hasDirectory_iff.mp (Bool.not_eq_false _ ▸ isDir)
    rw [← FileTree.spot_of_place place, Path.spot_join isName, here] at there
    simp [onePage, FileTree.node?, Fields.get?] at there

theorem serves_onePage (url text : String) : (onePage url text).Serves url text := by
  have found : (onePage url text).site.serve (Address.requested url).text = .page 200 text := by
    simp [onePage, Site.serve, Fields.get?]
  have final : request {} (onePage url text).site mostRedirects (Address.requested url).text =
      ([(Address.requested url).text], .response 200 text) := by
    rw [mostRedirects, request, found]
  exact ⟨_, _, final, by decide⟩

/-- A name as long as names may be, before an extension is added to it. -/
def longName : String := String.ofList (List.replicate 255 'a')

theorem utf8ByteSize_longName : longName.utf8ByteSize = 255 := by
  have size (n : Nat) : (String.ofList (List.replicate n 'a')).utf8ByteSize = n := by
    induction n with
    | zero => rfl
    | succ n ih =>
      rw [List.replicate_succ', String.ofList_append, String.utf8ByteSize_append, ih]
      rfl
  exact size 255

theorem not_mem_longName {c : Char} (hc : c ≠ 'a') : c ∉ longName.toList := by
  have only (n : Nat) (d : Char) : d ∈ (String.ofList (List.replicate n 'a')).toList → d = 'a' := by
    rw [String.toList_ofList]
    exact List.eq_of_mem_replicate
  exact fun mem => hc (only 255 c mem)

/-- Pages that the web serves and that are not in the cache, in a usable cache: no answer is given
where the file would have too long a name, and none where the address has a control character. -/
theorem not_answered_served :
    (∃ path, FetchSettings.Usable {} (onePage ("https://h/" ++ longName) "one").files ∧
      FetchSettings.KeptAt {} ("https://h/" ++ longName) none path ∧
      (∀ found, (onePage ("https://h/" ++ longName) "one").files.file path ≠ .ok found) ∧
      (onePage ("https://h/" ++ longName) "one").Serves ("https://h/" ++ longName) "one" ∧
      ∀ text, (FetchSettings.fetchText {} (onePage ("https://h/" ++ longName) "one")
        ("https://h/" ++ longName) none).outcome ≠ .ok text) ∧
    ∃ path, FetchSettings.Usable {} (onePage "https://h/a\x01" "two").files ∧
      FetchSettings.KeptAt {} "https://h/a\x01" none path ∧
      (∀ found, (onePage "https://h/a\x01" "two").files.file path ≠ .ok found) ∧
      (onePage "https://h/a\x01" "two").Serves "https://h/a\x01" "two" ∧
      ∀ text, (FetchSettings.fetchText {} (onePage "https://h/a\x01" "two") "https://h/a\x01"
        none).outcome ≠ .ok text := by
  have filled : longName ≠ "" := by
    intro h
    have size := utf8ByteSize_longName
    rw [h] at size
    cases size
  obtain ⟨isName, path⟩ := cachePath_of_plain {} filled
    (not_mem_longName (by decide)) (not_mem_longName (by decide))
  have kept : FetchSettings.KeptAt {} ("https://h/" ++ longName) none
      (Path.join "cache" (longName ++ ".html")) := ⟨rfl, path⟩
  have unfit : ¬ FileName (Path.last (Path.join "cache" (longName ++ ".html"))) := by
    rintro ⟨short, -⟩
    rw [Path.last_join isName, String.utf8ByteSize_append, utf8ByteSize_longName] at short
    exact absurd short (by decide)
  have malformed : (FetchSettings.fetchText {} (onePage "https://h/a\x01" "two") "https://h/a\x01"
      none).outcome.toOption = none := by decide +kernel
  have empty : (FileTree.file (onePage "https://h/a\x01" "two").files
      "cache/a\x01.html").toOption = none := by decide +kernel
  have keptMalformed : FetchSettings.KeptAt {} "https://h/a\x01" none "cache/a\x01.html" :=
    ⟨rfl, eq_ok_of_toOption (by decide +kernel)⟩
  refine ⟨⟨_, usable_onePage _ _, kept, ?_, serves_onePage _ _, ?_⟩,
    ⟨_, usable_onePage _ _, keptMalformed, ?_, serves_onePage _ _, ?_⟩⟩
  · exact file_of_not_fileName kept.isCachePath unfit
  · exact fetchText_of_not_fileName kept unfit
  · exact ne_ok_of_toOption empty
  · exact ne_ok_of_toOption malformed

end RaggedTables.Web
