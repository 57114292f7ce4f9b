/-! # Citations

A `Citation` is one catalog item made ready for any style: creators as lists of names, the
title and the parts of its container cleaned, pages split into their first and last page,
the publisher combined with its place, the date read into year, month and day, and a link.

An item that carries its own explicit citation keeps only that text and whether it is an
article. A year of 0 means that no usable date was found; month and day are 0 when unknown.

`BuildOptions` are the switches by which styles ask for a field in their form: a protocol
stripped from the link text, `vol.` and `no.` before a bare volume and issue, `p.` or `pp.`
before pages, and the publisher's place beside its name.
-/

namespace Citations

/-- A catalog item made ready for any style. -/
structure Citation where
  explicitText : List String := []
  isArticle : Bool := false
  authors : List String := []
  editors : List String := []
  advisors : List String := []
  compilers : List String := []
  translators : List String := []
  title : String := ""
  journal : String := ""
  volume : String := ""
  issue : String := ""
  pages : String := ""
  pageFrom : String := ""
  pageTo : String := ""
  edition : String := ""
  publisher : String := ""
  publisherName : String := ""
  publisherPlace : String := ""
  format : String := ""
  publicationType : String := ""
  dataSource : String := ""
  date : String := ""
  year : Int := 0
  month : Int := 0
  day : Int := 0
  link : String := ""

/-- The switches by which a style asks for fields in its form. -/
structure BuildOptions where
  stripProtocol : Bool := false
  volumePrefix : Bool := false
  issuePrefix : Bool := false
  pagesPrefix : Bool := false
  publisherPlace : Bool := false

end Citations
