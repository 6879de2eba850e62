import RaggedTables.Proofs.Web.Runs

/-! Whose page an answer is. Addresses with the same last name share a file in the cache, so an
answer without a request is a page that was served for one of them. -/

namespace RaggedTables.Web

/-- An answer that is read back from the file of its address. One call of the run filled that file:
not long ago, for an address with the same file, and with the page that the web served for it then.
-/
structure FetchSettings.ReadBack (settings : FetchSettings) (start : World)
    (events : List WebEvent) (url : String) (useCache : Option Bool) (answer : String)
    (earlier : List WebEvent) (other path text : String) : Prop where
  called : ∃ useCache' later, events = earlier ++ .fetch other useCache' :: later ∧
    settings.Stores (settings.run start earlier) other useCache' path text
  kept : settings.KeptAt url useCache path
  young : (settings.run start events).now < (settings.run start earlier).now + settings.timeToLive
  holds : (settings.run start events).files.file path =
    .ok (Utf8.encode text.toList, (settings.run start earlier).now)
  read : (settings.run start events).files.read path = .ok answer
  same : '\x0d' ∉ text.toList → answer = text

/-- The web serves a text for an address at the end of a run, or it did not long before. -/
def FetchSettings.ServedLately (settings : FetchSettings) (start : World) (events : List WebEvent)
    (url text : String) : Prop :=
  (settings.run start events).Serves url text ∨
    ∃ earlier later, events = earlier ++ later ∧
      (settings.run start earlier).Serves url text ∧
      (settings.run start events).now < (settings.run start earlier).now + settings.timeToLive

section

variable {settings : FetchSettings} {start world : World} {url : String} {useCache : Option Bool}
  {events : List WebEvent}

/-- The web serves at most one text for an address. -/
theorem World.Serves.unique {text text' : String} (h : world.Serves url text)
    (h' : world.Serves url text') : text = text' := by
  obtain ⟨requests, status, final, -⟩ := h
  obtain ⟨requests', status', final', -⟩ := h'
  rw [final] at final'
  exact (Reply.response.inj (Prod.mk.inj final').2).2

/-- A call does not change what the web serves. -/
theorem serves_fetchText {other text : String} :
    (settings.fetchText world url useCache).world.Serves other text ↔ world.Serves other text := by
  have fetches := fetchText_fetches settings world url useCache
  generalize settings.fetchText world url useCache = fetched at fetches
  cases fetches <;> exact Iff.rfl

theorem serves_of_servedLately {call url text : String}
    (h : settings.ServedLately start [.fetch call useCache] url text) : start.Serves url text := by
  have after : (settings.run start [.fetch call useCache]).Serves url text ↔
      start.Serves url text := serves_fetchText
  rcases h with now | ⟨earlier, later, split, served, -⟩
  · exact after.mp now
  · rcases List.append_eq_singleton_iff.mp split.symm with ⟨rfl, -⟩ | ⟨rfl, -⟩
    · exact served
    · exact after.mp served

/-- An answer without a request is read back. -/
theorem readBack_of_silent (empty : settings.EmptyCache start.files) {answer : String}
    (silent : (settings.fetchText (settings.run start events) url useCache).requests = [])
    (answered : (settings.fetchText (settings.run start events) url useCache).outcome =
      .ok answer) :
    ∃ earlier other path text,
      settings.ReadBack start events url useCache answer earlier other path text := by
  obtain ⟨path, text, time, kept, stored, young, holds, read⟩ :=
    stored_of_silent empty silent answered
  obtain ⟨earlier, other, useCache', later, split, stores, rfl⟩ := stored.call
  refine ⟨earlier, other, path, text, ⟨useCache', later, split, stores⟩, kept, young, holds, read,
    fun plain => ?_⟩
  rw [eq_unifyLines_of_read kept.isCachePath holds read, Utf8.unifyLines_of_not_mem plain,
    String.ofList_toList]

/-- An answer is what the web serves at that moment, or it is read back from the file of its address
as one earlier call left it. -/
theorem answer_of_run (empty : settings.EmptyCache start.files) {answer : String}
    (answered : (settings.fetchText (settings.run start events) url useCache).outcome =
      .ok answer) :
    (settings.run start events).Serves url answer ∨
      ∃ earlier other path text,
        settings.ReadBack start events url useCache answer earlier other path text := by
  by_cases silent : (settings.fetchText (settings.run start events) url useCache).requests = []
  · exact .inr (readBack_of_silent empty silent answered)
  · exact .inl (fetchText_served silent answered)

end

/-- A page that was served under another address. -/
theorem answer_of_run_shared :
    FetchSettings.EmptyCache {} sharedName.files ∧
    (FetchSettings.fetchText {} (FetchSettings.run {} sharedName [.fetch "http://h/a/x" none])
      "http://h/b/x" none).outcome = .ok "one" ∧
    ((FetchSettings.run {} sharedName [.fetch "http://h/a/x" none]).Serves
        "http://h/b/x" "one" ∨
      ∃ earlier other path text, FetchSettings.ReadBack {} sharedName
        [.fetch "http://h/a/x" none] "http://h/b/x" none "one" earlier other path text) := by
  have answered : (FetchSettings.fetchText {}
      (FetchSettings.run {} sharedName [.fetch "http://h/a/x" none]) "http://h/b/x"
      none).outcome = .ok "one" := eq_ok_of_toOption (by decide +kernel)
  exact ⟨emptyCache_nil {}, answered, answer_of_run (emptyCache_nil {}) answered⟩

/-- Answers that the web never served for their addresses: a page of another address with the same
last name, and a page whose carriage return is lost when it is read back. -/
theorem not_servedLately :
    ((FetchSettings.fetchText {} (FetchSettings.run {} sharedName [.fetch "http://h/a/x" none])
        "http://h/b/x" none).outcome = .ok "one" ∧
      ¬ FetchSettings.ServedLately {} sharedName [.fetch "http://h/a/x" none] "http://h/b/x"
        "one") ∧
    (FetchSettings.fetchText {} (FetchSettings.run {} sharedName [.fetch "http://h/y" none])
        "http://h/y" none).outcome = .ok "a\nb" ∧
      ¬ FetchSettings.ServedLately {} sharedName [.fetch "http://h/y" none] "http://h/y"
        "a\nb" := by
  have other : sharedName.Serves "http://h/b/x" "two" :=
    ⟨["http://h/b/x"], 200, by decide +kernel, by decide⟩
  have withReturn : sharedName.Serves "http://h/y" "a\x0d\nb" :=
    ⟨["http://h/y"], 200, by decide +kernel, by decide⟩
  refine ⟨⟨eq_ok_of_toOption (by decide +kernel), fun lately => ?_⟩,
    eq_ok_of_toOption (by decide +kernel), fun lately => ?_⟩
  · exact absurd (other.unique (serves_of_servedLately lately)) (by decide)
  · exact absurd (withReturn.unique (serves_of_servedLately lately)) (by decide)

end RaggedTables.Web
