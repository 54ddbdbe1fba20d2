import CloudAdmin.Url.Percent

/-!
# Path segments

An id that a caller supplies is put into a URL as one path segment. Tabs and line breaks are not
part of any URL and are dropped. What is left is encoded so that slashes, question marks, number
signs and percent signs inside it stay part of the segment. A segment of one dot or two would
change the path instead of extending it, so it is left out.
-/

namespace CloudAdmin.Url

/-- The characters that are dropped wherever they stand in a URL. -/
def isIgnored (c : Char) : Bool :=
  c == '\t' || c == '\n' || c == '\r'

/-- Whether a segment would be resolved instead of kept. -/
def isDotSegment (segment : List Char) : Bool :=
  segment == ['.'] || segment == ['.', '.']

/-- A value as one segment of a path. -/
def segment (value : String) : String :=
  let kept := value.toList.filter fun c => !isIgnored c
  if isDotSegment kept then "" else String.ofList (percentEncode inSegmentSet kept)

end CloudAdmin.Url
