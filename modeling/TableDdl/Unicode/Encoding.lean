import TableDdl.Unicode.DomainName
import TableDdl.Unicode.Escaped
import TableDdl.Unicode.Switched
import TableDdl.Unicode.Utf7
import TableDdl.Unicode.Utf8

/-!
# Text encodings

How the bytes of a text file stand for characters. An encoding is known by several names, in which
neither case counts nor what stands between the letters and digits (`Encoding.ofName?`).
`Encoding.decode` reads bytes; it refuses bytes that stand for no text, and bytes of an encoding
with two byte orders that do not show theirs by a mark in front.
-/

namespace TableDdl.Unicode

inductive ByteOrder where
  | little
  | big
  deriving DecidableEq, Repr

inductive Encoding where
  | ascii
  | utf8
  /-- A byte order mark in front is no part of the text. -/
  | markedUtf8
  /-- Without an order of its own, a mark has to show it. -/
  | utf16 (order : Option ByteOrder)
  | utf32 (order : Option ByteOrder)
  | utf7
  | charset (c : Charset)
  | multiByte (e : MultiByte)
  | tildeSwitched
  | escapeSwitched (e : EscapeSwitched)
  /-- Escapes stand for characters; in the raw form, there are few of them. -/
  | escaped (isRaw : Bool)
  /-- ASCII that stands for other characters as well. -/
  | punycode
  | domainName
  /-- No bytes are a text. -/
  | undefined

/-! ## Units of several bytes -/

def ByteOrder.join (o : ByteOrder) (bytes : List UInt8) : Nat :=
  let most := match o with
    | .little => bytes.reverse
    | .big => bytes
  most.foldl (fun n b => 256 * n + b.toNat) 0

def pairs? (o : ByteOrder) : List UInt8 → Option (List Nat)
  | [] => some []
  | a :: b :: rest => (pairs? o rest).map (o.join [a, b] :: ·)
  | _ => none

def quadruples? (o : ByteOrder) : List UInt8 → Option (List Nat)
  | [] => some []
  | a :: b :: c :: d :: rest => (quadruples? o rest).map (o.join [a, b, c, d] :: ·)
  | _ => none

def utf16? (o : ByteOrder) (bytes : List UInt8) : Option (List Char) :=
  (pairs? o bytes).bind joinHalves?

def utf32? (o : ByteOrder) (bytes : List UInt8) : Option (List Char) :=
  (quadruples? o bytes).bind (·.mapM scalar?)

/-- Read bytes in the order that a mark shows, which is given as the lower order has it. Bytes
without one are looked at as well: only an empty text needs no mark. -/
def readMarked (mark : List UInt8) (read? : ByteOrder → List UInt8 → Option (List Char))
    (bytes : List UInt8) : Except DecodingFault (List Char) :=
  let rest := bytes.drop mark.length
  if mark.isPrefixOf bytes then (read? .little rest).elim (.error .undecodable) .ok
  else if mark.reverse.isPrefixOf bytes then (read? .big rest).elim (.error .undecodable) .ok
  else
    match read? .little bytes with
    | some [] => .ok []
    | some _ => .error .unmarked
    | none => .error .undecodable

namespace Encoding

/-- A whole text or none. -/
def wholeText (s : Option String) : Except DecodingFault String :=
  s.elim (.error .undecodable) .ok

/-- Read ASCII that stands for another text. -/
def decodeForm (read? : List Char → Option (List Char)) (bytes : List UInt8) :
    Except DecodingFault String :=
  if bytes.all (· < 0x80) then
    match read? (bytes.map Char.ofUInt8) with
    | some cs => .ok (String.ofList cs)
    | none => .error .malformed
  else .error .undecodable

def decode (e : Encoding) (bytes : List UInt8) : Except DecodingFault String :=
  match e with
  | ascii => wholeText (if bytes.all (· < 0x80) then decode? bytes else none)
  | utf8 => wholeText (decode? bytes)
  | markedUtf8 =>
    let mark := [0xEF, 0xBB, 0xBF]
    wholeText (decode? (if mark.isPrefixOf bytes then bytes.drop mark.length else bytes))
  | utf16 (some o) => wholeText ((utf16? o bytes).map String.ofList)
  | utf16 none => (readMarked [0xFF, 0xFE] utf16? bytes).map String.ofList
  | utf32 (some o) => wholeText ((utf32? o bytes).map String.ofList)
  | utf32 none => (readMarked [0xFF, 0xFE, 0, 0] utf32? bytes).map String.ofList
  | utf7 => Utf7.decoder.decodeLoose bytes
  | charset c => wholeText (c.decode? bytes)
  | multiByte e => e.decoder.decode bytes
  | tildeSwitched => TildeSwitched.decoder.decode bytes
  | escapeSwitched e => e.decoder.decode bytes
  | escaped isRaw => (if isRaw then Escaped.rawDecoder else Escaped.decoder).decodeLoose bytes
  | punycode => decodeForm Punycode.decode? bytes
  | domainName => decodeForm DomainName.decode? bytes
  | undefined => .error .noEncoding

/-! ## Names -/

/-- The main names of encodings, in which nothing but underscores stands between words, and the
other names of each. -/
def named : List (String × List String × Encoding) :=
  [("ascii",
      ["646", "ansi_x3.4_1968", "ansi_x3_4_1968", "ansi_x3.4_1986", "cp367", "csascii", "ibm367",
       "iso646_us", "iso_646.irv_1991", "iso_ir_6", "us", "us_ascii"], .ascii),
   ("utf_8", ["u8", "utf", "utf8", "utf8_ucs2", "utf8_ucs4", "cp65001"], .utf8),
   ("utf_8_sig", [], .markedUtf8),
   ("utf_16", ["u16", "utf16"], .utf16 none),
   ("utf_16_le", ["unicodelittleunmarked", "utf_16le"], .utf16 (some .little)),
   ("utf_16_be", ["unicodebigunmarked", "utf_16be"], .utf16 (some .big)),
   ("utf_32", ["u32", "utf32"], .utf32 none),
   ("utf_32_le", ["utf_32le"], .utf32 (some .little)),
   ("utf_32_be", ["utf_32be"], .utf32 (some .big)),
   ("latin_1",
      ["8859", "cp819", "csisolatin1", "ibm819", "iso8859", "iso8859_1", "iso_8859_1",
       "iso_8859_1_1987", "iso_ir_100", "l1", "latin", "latin1"], .charset .latin1),
   ("charmap", [], .charset .latin1), ("utf_7", ["u7", "unicode_1_1_utf_7", "utf7"], .utf7),
   ("unicode_escape", [], .escaped false), ("raw_unicode_escape", [], .escaped true),
   ("punycode", [], .punycode), ("idna", [], .domainName), ("undefined", [], .undefined)]

/-- The same for encodings of the scripts of East Asia. -/
def namedEastAsian : List (String × List String × Encoding) :=
  [("big5", ["big5_tw", "csbig5", "x_mac_trad_chinese"], .multiByte .big5),
   ("big5hkscs", ["big5_hkscs", "hkscs"], .multiByte .big5hkscs),
   ("cp932", ["932", "ms932", "ms_kanji", "mskanji"], .multiByte .cp932),
   ("cp949", ["949", "ms949", "uhc"], .multiByte .cp949),
   ("cp950", ["950", "ms950"], .multiByte .cp950),
   ("euc_jis_2004", ["euc_jis2004", "eucjis2004", "jisx0213"], .multiByte (.eucJisX0213 .of2004)),
   ("euc_jisx0213", ["eucjisx0213"], .multiByte (.eucJisX0213 .of2000)),
   ("euc_jp", ["eucjp", "u_jis", "ujis"], .multiByte .eucJp),
   ("euc_kr",
      ["euckr", "korean", "ks_c_5601", "ks_c_5601_1987", "ks_x_1001", "ksc5601", "ksx1001",
       "x_mac_korean"], .multiByte .eucKr),
   ("gb18030", ["gb18030_2000"], .multiByte .gb18030),
   ("gb2312",
      ["chinese", "csiso58gb231280", "euc_cn", "euccn", "eucgb2312_cn", "gb2312_80", "gb2312_1980",
       "iso_ir_58", "x_mac_simp_chinese"], .multiByte .gb2312),
   ("gbk", ["936", "cp936", "ms936"], .multiByte .gbk),
   ("hz", ["hz_gb", "hz_gb_2312", "hzgb"], .tildeSwitched),
   ("iso2022_jp", ["csiso2022jp", "iso2022jp", "iso_2022_jp"], .escapeSwitched .iso2022Jp),
   ("iso2022_jp_1", ["iso2022jp_1", "iso_2022_jp_1"], .escapeSwitched .iso2022Jp1),
   ("iso2022_jp_2", ["iso2022jp_2", "iso_2022_jp_2"], .escapeSwitched .iso2022Jp2),
   ("iso2022_jp_2004", ["iso2022jp_2004", "iso_2022_jp_2004"], .escapeSwitched .iso2022Jp2004),
   ("iso2022_jp_3", ["iso2022jp_3", "iso_2022_jp_3"], .escapeSwitched .iso2022Jp3),
   ("iso2022_jp_ext", ["iso2022jp_ext", "iso_2022_jp_ext"], .escapeSwitched .iso2022JpExt),
   ("iso2022_kr", ["csiso2022kr", "iso2022kr", "iso_2022_kr"], .escapeSwitched .iso2022Kr),
   ("johab", ["cp1361", "ms1361"], .multiByte .johab),
   ("shift_jis", ["csshiftjis", "s_jis", "shiftjis", "sjis", "x_mac_japanese"],
      .multiByte .shiftJis),
   ("shift_jis_2004", ["s_jis_2004", "shiftjis2004", "sjis_2004"],
      .multiByte (.shiftJisX0213 .of2004)),
   ("shift_jisx0213", ["s_jisx0213", "shiftjisx0213", "sjisx0213"],
      .multiByte (.shiftJisX0213 .of2000))]

/-- All encodings by their names. -/
def all : List (String × List String × Encoding) :=
  named ++ Charset.named.map (fun e => (e.1, e.2.1, .charset e.2.2)) ++ namedEastAsian

def isNameChar (c : Char) : Bool := c.isAlphanum || c == '.'

/-- One underscore for each run of characters that belong to no word, but none in front. -/
def joinWords (inside : Bool) : List Char → List Char
  | [] => []
  | c :: cs =>
    if isNameChar c then c.toLower :: joinWords true cs
    else if inside && cs.any isNameChar then '_' :: joinWords false cs
    else joinWords false cs

/-- The words of a name, in lower case and with one underscore between them. A point is part of a
word. -/
def normalName (name : String) : String := String.ofList (joinWords false name.toList)

/-- In other names a point can stand for an underscore. One name, spelled so, is for the encoding of
where the program runs, which is UTF-8. -/
def ofName? (name : String) : Option Encoding :=
  if name = "locale" then some .utf8
  else
    let n := normalName name
    let plain := n.map fun c => if c == '.' then '_' else c
    (all.find? fun e => e.1 == n || e.2.1.contains n || e.2.1.contains plain).map (·.2.2)

end Encoding

end TableDdl.Unicode
