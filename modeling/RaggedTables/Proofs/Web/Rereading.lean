import RaggedTables.Proofs.Files.Rereading
import RaggedTables.Proofs.Web.Runs

/-! What is fetched twice. A page that is kept is answered the second time as it is read back from
its file, so the two answers are the same text exactly if there is no carriage return in the first.
-/

namespace RaggedTables.Web

open FileTree (Writable)

variable {settings : FetchSettings} {world : World} {url path text : String}
  {useCache : Option Bool}

/-- A page that is kept and young enough is read from its file. -/
theorem fetchText_of_fresh (kept : settings.KeptAt url useCache path)
    (fresh : settings.Fresh world path) :
    settings.fetchText world url useCache = ⟨world, [], world.files.read path⟩ := by
  have fetches := fetchText_fetches settings world url useCache
  generalize settings.fetchText world url useCache = fetched at fetches ⊢
  cases fetches with
  | uncached off asks =>
    rw [kept.caching] at off
    cases off
  | unnamed caching nameless =>
    rw [kept.path] at nameless
    cases nameless
  | reused kept' fresh' => rw [kept.unique kept']
  | stored kept' stale asks keeps => exact absurd (kept.unique kept' ▸ fresh) stale
  | refused kept' free asks =>
    obtain ⟨bytes, modified, here, -⟩ := fresh
    exact absurd (kept.unique kept' ▸ here) (free _)
  | dropped kept' outdated asks drops =>
    rw [← kept.unique kept'] at outdated
    exact absurd fresh outdated.not_fresh
  | unkept kept' free hindered asked grown =>
    obtain ⟨bytes, modified, here, -⟩ := fresh
    exact absurd (kept.unique kept' ▸ here) (free _)

/-- After a call that answers a text, the file of its page is read as that text with unified line
ends. -/
theorem read_of_answered (kept : settings.KeptAt url useCache path)
    (answered : (settings.fetchText world url useCache).outcome = .ok text) :
    (settings.fetchText world url useCache).world.files.read path = .ok (Utf8.unified text) := by
  have fetches := fetchText_fetches settings world url useCache
  have normal := kept.isCachePath.normal
  generalize settings.fetchText world url useCache = fetched at fetches answered ⊢
  cases fetches with
  | uncached off asks =>
    rw [kept.caching] at off
    cases off
  | unnamed caching nameless => cases answered
  | reused kept' fresh =>
    rw [← kept.unique kept'] at answered
    dsimp only at answered ⊢
    rw [answered, Utf8.unified_eq_self_iff.mpr (FileTree.not_mem_of_read answered)]
  | stored kept' stale asks keeps =>
    obtain rfl := Except.ok.inj answered
    have holds := keeps.holds
    rw [← kept.unique kept', ← normal] at holds
    exact FileTree.read_of_encoded holds
  | refused kept' free asks => cases answered
  | dropped kept' outdated asks drops => cases answered
  | unkept kept' free hindered asked grown => cases answered

/-- Wherever a text can be written, its file holds it in UTF-8 and no other file changes; it is read
back, and answered for a page that is kept, with its line ends unified, which is the text exactly if
there is no carriage return in it. -/
theorem reread_iff (tree : FileTree) (path text : String) (now : Int) (settings : FetchSettings)
    (world : World) (url cache : String) (useCache : Option Bool) :
    (Writable tree path →
      ∃ files, tree.write path text now = .ok files ∧
        files.file (Path.normal path) = .ok (text.toByteArray.data.toList, now) ∧
        (∀ place, place ≠ Path.spot path → files.node? place = tree.node? place) ∧
        files.read path = .ok (Utf8.unified text) ∧
        (files.read path = .ok text ↔ '\r' ∉ text.toList)) ∧
    (settings.KeptAt url useCache cache →
      (settings.fetchText world url useCache).outcome = .ok text →
      ∀ second useCache', useCache'.getD settings.useCache = true →
        second.files = (settings.fetchText world url useCache).world.files →
        settings.Fresh second cache →
        second.files.read cache = .ok (Utf8.unified text) ∧
          settings.fetchText second url useCache' = ⟨second, [], .ok (Utf8.unified text)⟩ ∧
          ((settings.fetchText second url useCache').outcome = .ok text ↔ '\r' ∉ text.toList)) := by
  constructor
  · intro writable
    obtain ⟨files, written⟩ := FileTree.write_of_writable writable text now
    have holds := FileTree.file_of_write written
    refine ⟨files, written, ?_, fun place => FileTree.node?_write_of_ne written,
      FileTree.read_of_encoded holds, FileTree.read_eq_self_iff holds⟩
    rw [holds, Utf8.encode_toList]
  · intro kept answered second useCache' caching same fresh
    have read := read_of_answered kept answered
    rw [← same] at read
    have kept' : settings.KeptAt url useCache' cache := ⟨caching, kept.path⟩
    have again := fetchText_of_fresh kept' fresh
    rw [read] at again
    refine ⟨read, again, ?_⟩
    rw [again, ← Utf8.unified_eq_self_iff]
    exact ⟨Except.ok.inj, congrArg Except.ok⟩

/-- What a first call for an address leaves. -/
def calledOnce (url : String) : World := (FetchSettings.fetchText {} sharedName url none).world

/-- A text without a carriage return is read back, and a page without one is answered twice. -/
theorem reread_iff_plain :
    Writable [] "f.txt" ∧
    (∃ files, FileTree.write [] "f.txt" "\u00e4\n\u2028b" 7 = .ok files ∧
      files.read "f.txt" = .ok "\u00e4\n\u2028b") ∧
    FetchSettings.KeptAt {} "http://h/a/x" none "cache/x.html" ∧
    (FetchSettings.fetchText {} sharedName "http://h/a/x" none).outcome = .ok "one" ∧
    FetchSettings.Fresh {} (calledOnce "http://h/a/x") "cache/x.html" ∧
    (FetchSettings.fetchText {} (calledOnce "http://h/a/x") "http://h/a/x" none).outcome =
      .ok "one" := by
  have kept : FetchSettings.KeptAt {} "http://h/a/x" none "cache/x.html" :=
    ⟨rfl, eq_ok_of_toOption (by decide +kernel)⟩
  have answered : (FetchSettings.fetchText {} sharedName "http://h/a/x" none).outcome = .ok "one" :=
    eq_ok_of_toOption (by decide +kernel)
  have fresh : FetchSettings.Fresh {} (calledOnce "http://h/a/x") "cache/x.html" :=
    ⟨Utf8.encode "one".toList, 0, eq_ok_of_toOption (by decide +kernel), by decide +kernel⟩
  obtain ⟨files, written, -, -, -, same⟩ :=
    (reread_iff [] "f.txt" "\u00e4\n\u2028b" 7 {} sharedName "http://h/a/x" "cache/x.html" none).1
      FileTree.writable_plain
  have again :=
    (reread_iff [] "f.txt" "one" 7 {} sharedName "http://h/a/x" "cache/x.html" none).2 kept answered
      (calledOnce "http://h/a/x") none rfl rfl fresh
  exact ⟨FileTree.writable_plain, ⟨files, written, same.mpr (by decide)⟩, kept, answered, fresh,
    again.2.2.mpr (by decide)⟩

/-- A carriage return is lost when a text is read back, and so the second answer for a page is
another text than the first. -/
theorem not_reread :
    (∃ files, FileTree.write [] "f.txt" "a\x0d\nb" 0 = .ok files ∧
      files.read "f.txt" ≠ .ok "a\x0d\nb") ∧
    (FetchSettings.fetchText {} sharedName "http://h/y" none).outcome = .ok "a\x0d\nb" ∧
    FetchSettings.Fresh {} (calledOnce "http://h/y") "cache/y.html" ∧
    (FetchSettings.fetchText {} (calledOnce "http://h/y") "http://h/y" none).outcome ≠
      .ok "a\x0d\nb" := by
  have again : (FetchSettings.fetchText {} (calledOnce "http://h/y") "http://h/y" none).outcome =
      .ok "a\nb" := eq_ok_of_toOption (by decide +kernel)
  refine ⟨⟨[(["f.txt"], .file [97, 13, 10, 98] 0)], eq_ok_of_toOption (by decide +kernel), ?_⟩,
    eq_ok_of_toOption (by decide +kernel),
    ⟨Utf8.encode "a\x0d\nb".toList, 0, eq_ok_of_toOption (by decide +kernel), by decide +kernel⟩,
      ?_⟩
  · have back : FileTree.read [(["f.txt"], .file [97, 13, 10, 98] 0)] "f.txt" = .ok "a\nb" :=
      eq_ok_of_toOption (by decide +kernel)
    rw [back]
    exact fun same => absurd (Except.ok.inj same) (by decide)
  · rw [again]
    exact fun same => absurd (Except.ok.inj same) (by decide)

end RaggedTables.Web
