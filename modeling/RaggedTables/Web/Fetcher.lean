import RaggedTables.Files.Tree
import RaggedTables.Web.Site

/-! Fetching pages through a cache of files. A page is kept under the last name of its address until
it has been there for the time that the settings allow. -/

namespace RaggedTables.Web

/-- The settings of a fetcher; the time to live is in microseconds. -/
structure FetchSettings where
  cacheDirectory : String := "cache"
  timeToLive : Int := 7 * 24 * 3600 * 1000000
  useCache : Bool := true
deriving Repr, DecidableEq, Inhabited

/-- All that a fetch sees and changes: the files, the clock, the web, the client, and whether the
client is closed. -/
structure World where
  files : FileTree
  now : Int
  site : Site
  client : Client := {}
  closed : Bool := false

/-! ### Names in the cache -/

/-- The last name after a slash in an address. -/
def lastName? (url : String) : Option String :=
  match Text.pieces ['/'] url.toList with
  | [] => none
  | _ :: names => (names.filter fun name => !name.isEmpty).getLast?.map String.ofList

/-- Whether a name has an extension: a dot before a letter, digit or underscore. -/
def hasExtension : List Char → Bool
  | '.' :: c :: rest => Text.isWord c || hasExtension (c :: rest)
  | _ :: rest => hasExtension rest
  | [] => false

/-- The name under which the page of an address is kept. -/
def cacheName? (url : String) : Option String :=
  (lastName? url).map fun name => if hasExtension name.toList then name else name ++ ".html"

/-- The file in which the page of an address is kept. -/
def FetchSettings.cachePath (settings : FetchSettings) (url : String) : Except Fault String :=
  match cacheName? url with
  | some name => .ok (Path.join settings.cacheDirectory name)
  | none => .error (.value (.noCacheName url))

/-! ### Fetching -/

/-- Whether a time lies so far back that what was written then is no longer used. -/
def FetchSettings.outdated (settings : FetchSettings) (modified now : Int) : Bool :=
  decide (modified + settings.timeToLive ≤ now)

/-- Whether a kept file is too old; a directory never is. -/
def FetchSettings.isExpired (settings : FetchSettings) (world : World) (path : String) :
    Except Fault Bool := do
  let path := Path.normal path
  match world.files.node? (← world.files.place path) with
  | none => throw (.file (FileTree.notFound path))
  | some .directory => return false
  | some (.file _ modified) => return settings.outdated modified world.now

/-- What a step of fetching leaves: the world, the addresses requested, and the outcome. -/
structure Fetched (α : Type) where
  world : World
  requests : List String
  outcome : Except Fault α

/-- The text of a reply. -/
def Reply.text (url : String) : Reply → Except Fault String
  | .failed reason => .error (.report (.fetch url none reason))
  | .response status text =>
    if 400 ≤ status then .error (.report (.fetch url (some status) "")) else .ok text

/-- Keeps a text in the cache. -/
def World.keep (world : World) (path text : String) : World × Except Fault Unit :=
  match world.files.makeDirectory (Path.parent path) with
  | .error fault =>
    ({ world with files := world.files.leftBehind (Path.parent path) }, .error fault)
  | .ok files =>
    let world := { world with files }
    match files.write path text world.now with
    | .error fault => (world, .error fault)
    | .ok files => ({ world with files }, .ok ())

/-- The addresses requested for an address, and its text. -/
def World.ask (world : World) (url : String) : List String × Except Fault String :=
  match world.client.refusal? url with
  | some reason => ([], .error (.badAddress reason))
  | none =>
    if world.closed then
      ([], .error (.stopped "Cannot send a request, as the client has been closed."))
    else
      let (requests, reply) :=
        request world.client world.site mostRedirects (world.client.requested url)
      (requests, reply.text url)

/-- Requests an address and keeps its text. -/
def World.load (world : World) (url : String) (cache : Option String) : Fetched String :=
  match world.ask url, cache with
  | (requests, .error fault), _ => ⟨world, requests, .error fault⟩
  | (requests, .ok text), none => ⟨world, requests, .ok text⟩
  | (requests, .ok text), some path =>
    let (world, kept) := world.keep path text
    ⟨world, requests, kept.map fun _ => text⟩

/-- What the cache holds for a path: a text, nothing, or a page that is too old and is removed. -/
def FetchSettings.recall (settings : FetchSettings) (world : World) (path : String) :
    Except Fault (World × Option String) := do
  if ← world.files.present path then
    if ← settings.isExpired world path then
      return ({ world with files := ← world.files.remove path }, none)
    else return (world, some (← world.files.read path))
  else return (world, none)

/-- Fetches the text of an address; `useCache` decides over the settings. -/
def FetchSettings.fetchText (settings : FetchSettings) (world : World) (url : String)
    (useCache : Option Bool) : Fetched String :=
  if !useCache.getD settings.useCache then world.load url none
  else
    match settings.cachePath url with
    | .error fault => ⟨world, [], .error fault⟩
    | .ok path =>
      match settings.recall world path with
      | .error fault => ⟨world, [], .error fault⟩
      | .ok (world, some text) => ⟨world, [], .ok text⟩
      | .ok (world, none) => world.load url (some path)

/-- Fetches an address into a file. -/
def FetchSettings.fetchFile (settings : FetchSettings) (world : World) (url path : String) :
    Fetched Unit :=
  let fetched := settings.fetchText world url none
  match fetched.outcome with
  | .error fault => ⟨fetched.world, fetched.requests, .error fault⟩
  | .ok text =>
    match fetched.world.files.write path text fetched.world.now with
    | .error fault => ⟨fetched.world, fetched.requests, .error fault⟩
    | .ok files => ⟨{ fetched.world with files }, fetched.requests, .ok ()⟩

end RaggedTables.Web
