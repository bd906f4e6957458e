namespace EpubLibrary.Html

/-- How the text of an element is read. -/
inductive Reading where
  /-- tags and references -/
  | markup
  /-- references, and no tags but the own end tag -/
  | replaceable
  /-- neither, up to the own end tag -/
  | raw
  /-- as raw, but an end tag inside a commented script does not count -/
  | script
  /-- neither, up to the end of the document -/
  | verbatim
  deriving DecidableEq

def reading (name : String) : Reading :=
  if name = "script" then .script
  else if name = "plaintext" then .verbatim
  else if ["title", "textarea"].contains name then .replaceable
  else if ["style", "xmp", "iframe", "noembed", "noframes"].contains name then .raw
  else .markup

/-- Elements without content. -/
def isVoid (name : String) : Bool :=
  ["area", "base", "basefont", "br", "col", "frame", "hr", "img", "input", "isindex", "link",
    "meta", "param"].contains name

/-- The rank of an element against end tags. -/
def endRank (name : String) : Nat :=
  if name = "div" then 150
  else if ["td", "th"].contains name then 160
  else if name = "tr" then 170
  else if ["thead", "tbody", "tfoot"].contains name then 180
  else if name = "table" then 190
  else if ["head", "body"].contains name then 200
  else if name = "html" then 220
  else 100

/-- The names whose start ends an open element of the given name. -/
def closedBy (name : String) : List String :=
  match name with
  | "a" => ["a", "fieldset", "table", "td", "th"]
  | "address" => ["dd", "dl", "dt", "form", "li", "ul"]
  | "b" => ["center", "p", "td", "th"]
  | "big" => ["p"]
  | "caption" => ["col", "colgroup", "tbody", "tfoot", "thead", "tr"]
  | "col" => ["col", "colgroup", "tbody", "tfoot", "thead", "tr"]
  | "colgroup" => ["colgroup", "tbody", "tfoot", "thead", "tr"]
  | "dd" => ["dt"]
  | "dir" => ["dd", "dl", "dt", "form", "ul"]
  | "dl" => ["form", "li"]
  | "dt" => ["dd", "dl"]
  | "font" => ["center", "td", "th"]
  | "form" => ["form"]
  | "h1" | "h2" | "h3" | "h4" | "h5" | "h6" => ["fieldset", "form", "li", "p", "table"]
  | "head" => ["a", "abbr", "acronym", "address", "b", "bdo", "big", "blockquote", "body", "br",
      "center", "cite", "code", "dd", "dfn", "dir", "div", "dl", "dt", "em", "fieldset", "font",
      "form", "frameset", "h1", "h2", "h3", "h4", "h5", "h6", "hr", "i", "iframe", "img", "kbd",
      "li", "listing", "map", "menu", "ol", "p", "pre", "q", "s", "samp", "small", "span",
      "strike", "strong", "sub", "sup", "table", "tt", "u", "ul", "var", "xmp"]
  | "hr" => ["form"]
  | "i" => ["center"]
  | "li" => ["li"]
  | "legend" => ["fieldset"]
  | "link" => ["body", "frameset"]
  | "listing" | "pre" | "xmp" => ["dd", "dl", "dt", "fieldset", "form", "li", "table", "ul"]
  | "menu" => ["dd", "dl", "dt", "form", "ul"]
  | "ol" => ["form"]
  | "option" => ["optgroup", "option"]
  | "p" => ["address", "blockquote", "body", "caption", "center", "col", "colgroup", "dd", "dir",
      "div", "dl", "dt", "frameset", "h1", "h2", "h3", "h4", "h5", "h6", "head", "hr", "li",
      "listing", "menu", "ol", "p", "pre", "table", "tbody", "td", "tfoot", "th", "title", "tr",
      "ul", "xmp"]
  | "s" | "small" | "strike" | "tt" => ["p"]
  | "script" => ["noscript"]
  | "span" => ["td", "th"]
  | "style" | "title" => ["body", "frameset"]
  | "tbody" => ["tbody", "tfoot"]
  | "td" => ["tbody", "td", "tfoot", "th", "tr"]
  | "tfoot" => ["tbody"]
  | "th" => ["tbody", "td", "tfoot", "th", "tr"]
  | "thead" => ["tbody", "tfoot"]
  | "tr" => ["tbody", "tfoot", "tr"]
  | "u" => ["p", "td", "th"]
  | "ul" => ["address", "form", "menu", "ol", "pre"]
  | _ => []

/-- Does the start of `new` end an open `old`? -/
def closes (new old : String) : Bool := (closedBy old).contains new

/-- Elements that open a head of their own when none was seen. -/
def isHeadContent (name : String) : Bool :=
  ["script", "style", "meta", "link", "title", "base"].contains name

end EpubLibrary.Html
