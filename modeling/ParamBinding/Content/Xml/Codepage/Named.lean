import ParamBinding.Content.Xml.Codepage.Dos
import ParamBinding.Content.Xml.Codepage.Iso
import ParamBinding.Content.Xml.Codepage.Mac
import ParamBinding.Content.Xml.Codepage.Other
import ParamBinding.Content.Xml.Codepage.Windows

/-!
# Encodings by their names

The name of an encoding may be written in capital letters and with other marks between its words. A
point counts as part of a word, or as a mark between words of an alias.
-/

namespace ParamBinding.Xml

open ParamBinding.Text

/-- All encodings. -/
def allEncodings : List Encoding :=
  isoEncodings ++ windowsEncodings ++ dosEncodings ++ macEncodings ++ otherEncodings ++
    wideEncodings ++ foreignEncodings ++ failingEncodings

/-- A name in small letters, its words joined by underscores. -/
def encodingKey (name : String) : List Char :=
  let small := name.toList.map fun c => if c.isAlphanum || c = '.' then c.toLower else '_'
  joinWith ['_'] ((splitOn ['_'] small).filter (!·.isEmpty))

/-- The encoding with a name. -/
def encodingNamed? (name : String) : Option Encoding :=
  let key := encodingKey name
  let word := String.ofList key
  let words := String.ofList (key.map fun c => if c = '.' then '_' else c)
  allEncodings.find? fun e => e.name == word || e.aliases.contains word || e.aliases.contains words

end ParamBinding.Xml
