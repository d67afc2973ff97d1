/-
Encodings of files: what a text is in one of them that was written in UTF-8.
-/

namespace GrantKeeper

/-- An encoding of text. -/
inductive Encoding where
  | utf8
  /-- A character for each byte. -/
  | latin1
  /-- A character for each byte below 128, and none for others. -/
  | ascii
  deriving DecidableEq, Repr

namespace Encoding

def names : List (Encoding × List String) := [
  (.utf8, ["utf_8_sig"]),
  (.utf8, ["utf_8", "utf8", "u8", "utf", "utf8_ucs2", "utf8_ucs4", "cp65001"]),
  (.latin1, ["latin_1", "latin1", "latin", "l1", "8859", "cp819", "csisolatin1", "ibm819", "iso8859",
    "iso8859_1", "iso_8859_1", "iso_8859_1_1987", "iso_ir_100"]),
  (.ascii, ["ascii", "646", "ansi_x3.4_1968", "ansi_x3.4_1986", "ansi_x3_4_1968", "cp367", "csascii",
    "ibm367", "iso646_us", "iso_646.irv_1991", "iso_ir_6", "us", "us_ascii"])]

/-- A name as it is compared: small letters, digits and points, with an underscore for whatever
stands between them. `begun` says that one of these came before, and `gap` that something else came
after it. -/
def comparedFrom (begun gap : Bool) : List Char → List Char
  | [] => []
  | c :: rest =>
    if c.isAlphanum || c = '.' then
      let letter := c.toLower :: comparedFrom true false rest
      if gap && begun then '_' :: letter else letter
    else comparedFrom begun true rest

/-- The encoding that a name stands for. Points in a name count as underscores if there is no such
name, except in those that an encoding has first. -/
def ofName? (name : String) : Option Encoding :=
  let compared := comparedFrom false false name.toList
  let pointless := compared.map fun c => if c = '.' then '_' else c
  let find (known : List String → List String) (cs : List Char) : Option Encoding :=
    (names.find? fun entry => (known entry.2).contains (String.ofList cs)).map Prod.fst
  find id compared <|> find (List.drop 1) pointless

/-- A text that was written in UTF-8, read in an encoding. -/
def reread? (encoding : Encoding) (s : String) : Option String :=
  match encoding with
  | .utf8 => some s
  | .latin1 => some (String.ofList (s.toUTF8.toList.map fun b => Char.ofNat b.toNat))
  | .ascii => if s.toList.all (·.toNat < 0x80) then some s else none

end Encoding
end GrantKeeper
