import RaggedTables.Web.Address
import RaggedTables.Fields

/-! What the web answers: pages by address, redirects and connections that fail, and the client that
asks it. -/

namespace RaggedTables.Web

/-- What stands at an address. -/
inductive Page where
  | page (status : Int) (text : String)
  | redirect (status : Int) (location : String)
  | broken (reason : String)
deriving Repr, DecidableEq, Inhabited

/-- Pages by address. -/
abbrev Site := Fields String Page

/-- An address that is not listed has no page. -/
def Site.serve (site : Site) (url : String) : Page := (site.get? url).getD (.page 404 "")

/-- How a request ends: with a final page, or without a response. -/
inductive Reply where
  | response (status : Int) (text : String)
  | failed (reason : String)
deriving Repr, DecidableEq, Inhabited

/-- How a client reads addresses: why it refuses a text, in which spelling it requests one, and
where a reference leads from an address. -/
structure Client where
  refusal? : String → Option String := Address.refusal?
  requested : String → String := fun url => (Address.requested url).text
  follow : String → String → String := fun url reference =>
    ((Address.ofText url).follow reference).text
deriving Inhabited

/-- The most redirects that are followed. -/
def mostRedirects : Nat := 20

/-- The statuses that redirect. -/
def redirecting : List Int := [301, 302, 303, 307, 308]

/-- Requests an address and follows redirects; gives the addresses requested and the reply. A
redirect to a text that is no address is a failure. -/
def request (client : Client) (site : Site) :
    (redirects : Nat) → (url : String) → List String × Reply
  | redirects, url =>
    match site.serve url with
    | .page status text => ([url], .response status text)
    | .broken reason => ([url], .failed reason)
    | .redirect status location =>
      if !redirecting.contains status then ([url], .response status "")
      else
        match client.refusal? location, redirects with
        | some reason, _ => ([url], .failed ("Invalid URL in location header: " ++ reason ++ "."))
        | none, 0 => ([url], .failed "Exceeded maximum allowed redirects.")
        | none, redirects + 1 =>
          let (urls, reply) := request client site redirects (client.follow url location)
          (url :: urls, reply)

end RaggedTables.Web
