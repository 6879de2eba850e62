/-! Which elements close each other. An opening tag may close the innermost element before it; a
closing tag may close elements inside its own, unless one of them outranks it. -/

namespace RaggedTables.Markup

/-- The tags that end an open element, by its name. -/
def closedBy (tag : String) : List String :=
  let headings := ["fieldset", "form", "li", "p", "table"]
  let lists := ["dd", "dl", "dt", "form", "ul"]
  match tag with
  | "a" => ["a", "fieldset", "table", "td", "th"]
  | "address" => ["dd", "dl", "dt", "form", "li", "ul"]
  | "b" => ["center", "p", "td", "th"]
  | "big" | "s" | "small" | "strike" | "tt" => ["p"]
  | "caption" | "col" => ["col", "colgroup", "tbody", "tfoot", "thead", "tr"]
  | "colgroup" => ["colgroup", "tbody", "tfoot", "thead", "tr"]
  | "dd" => ["dt"]
  | "dir" => lists
  | "dl" => ["form"]
  | "dt" => ["dd", "dl"]
  | "font" => ["center", "td", "th"]
  | "form" => ["form"]
  | "h1" | "h2" | "h3" | "h4" | "h5" | "h6" => headings
  | "head" =>
    ["a", "abbr", "acronym", "address", "b", "bdo", "big", "blockquote", "body", "br", "center",
      "cite", "code", "dd", "dfn", "dir", "div", "dl", "dt", "em", "fieldset", "font", "form",
      "frameset", "h1", "h2", "h3", "h4", "h5", "h6", "hr", "i", "iframe", "img", "kbd", "li",
      "listing", "map", "menu", "ol", "p", "pre", "q", "s", "samp", "small", "span", "strike",
      "strong", "sub", "sup", "table", "tt", "u", "ul", "var", "xmp"]
  | "hr" => ["form"]
  | "i" => ["center"]
  | "legend" => ["fieldset"]
  | "li" => ["li"]
  | "link" => ["body", "frameset"]
  | "listing" => ["dd", "dl", "dt", "fieldset", "form", "li", "table", "ul"]
  | "menu" => lists
  | "ol" => ["form"]
  | "option" => ["optgroup", "option"]
  | "p" =>
    ["address", "blockquote", "body", "caption", "center", "col", "colgroup", "dd", "dir", "div",
      "dl", "dt", "frameset", "h1", "h2", "h3", "h4", "h5", "h6", "head", "hr", "li", "listing",
      "menu", "multicol", "ol", "p", "pre", "table", "tbody", "td", "tfoot", "th", "title", "tr",
      "ul", "xmp"]
  | "pre" => ["dd", "dl", "dt", "fieldset", "form", "li", "table", "ul"]
  | "script" => ["noscript"]
  | "span" => ["td", "th"]
  | "style" | "title" => ["body", "frameset"]
  | "tbody" => ["tbody", "tfoot"]
  | "td" | "th" => ["tbody", "td", "tfoot", "th", "tr"]
  | "tfoot" => ["tbody"]
  | "thead" => ["tbody", "tfoot"]
  | "tr" => ["tbody", "tfoot", "tr"]
  | "u" => ["p", "td", "th"]
  | "ul" => ["address", "form", "menu", "ol", "pre"]
  | "xmp" => ["dd", "dl", "dt", "fieldset", "form", "li", "table", "ul"]
  | _ => []

/-- The rank of an element against closing tags of elements around it. -/
def rank (tag : String) : Nat :=
  match tag with
  | "div" => 150
  | "td" | "th" => 160
  | "tr" => 170
  | "thead" | "tbody" | "tfoot" => 180
  | "table" => 190
  | "head" | "body" => 200
  | "html" => 220
  | _ => 100

/-- Elements without content. -/
def isVoid (tag : String) : Bool :=
  ["area", "base", "basefont", "br", "col", "frame", "hr", "img", "input", "isindex", "link",
    "meta", "param"].contains tag

/-- Attributes that are true by being there. -/
def isSwitch (name : String) : Bool :=
  ["checked", "compact", "declare", "defer", "disabled", "ismap", "multiple", "nohref", "noresize",
    "noshade", "nowrap", "readonly", "selected"].contains name

end RaggedTables.Markup
