import EntityModel.Charset.Iso2022
import EntityModel.Charset.Page.Cyrillic
import EntityModel.Charset.Page.Macintosh
import EntityModel.Charset.Page.National
import EntityModel.Charset.Page.Pc
import EntityModel.Charset.Page.Windows
import EntityModel.Charset.Unicode

/-!
# Names of charsets

A charset has several names, and a letter of a name is the same in both cases. What a name stands for is a way to read
bytes: all of them, or nothing if one of them is wrong.
-/

namespace EntityModel.Charset

/-- A way to read bytes. -/
abbrev Reading := List UInt8 → Option (List Char)

/-- The charsets that have every code point with their names, in capitals. -/
def unicodeNamed : List (List String × Reading) :=
  [(["UTF-8", "UTF8", "CHAR"], Unicode.utf8?),
   (["UTF-16", "UTF16", "UTF-16LE"], Unicode.utf16? false), (["UTF-16BE"], Unicode.utf16? true),
   (["ISO-10646-UCS-2", "UCS-2", "UCS2", "CSUNICODE"], Unicode.markedUcs2?),
   (["UCS-2BE", "UNICODE-1-1", "UNICODEBIG", "CSUNICODE11", "UCS-2-SWAPPED"], Unicode.ucs2? true),
   (["UCS-2LE", "UNICODELITTLE", "UCS-2-INTERNAL"], Unicode.ucs2? false),
   (["ISO-10646-UCS-4", "UCS-4", "UCS4", "CSUCS4", "UTF-32"], Unicode.markedUtf32?),
   (["UCS-4BE", "UTF-32BE", "UCS-4-SWAPPED"], Unicode.utf32? true),
   (["UCS-4LE", "UTF-32LE", "UCS-4-INTERNAL", "WCHAR_T"], Unicode.utf32? false),
   (["UTF-7", "UNICODE-1-1-UTF-7", "CSUNICODE11UTF7"], Unicode.utf7.decode?),
   (["C99"], Unicode.longEscapes.decode?), (["JAVA"], Unicode.shortEscapes.decode?)]

/-- The charsets of East Asia with their names, in capitals. -/
def eastAsianNamed : List (List String × Reading) :=
  [(["EUC-JP", "EUCJP", "EXTENDED_UNIX_CODE_PACKED_FORMAT_FOR_JAPANESE", "CSEUCPKDFMTJAPANESE"],
     Japanese.extended.decode?),
   (["SHIFT_JIS", "SHIFT-JIS", "SJIS", "MS_KANJI", "CSSHIFTJIS"], Japanese.shifted.decode?),
   (["CP932"], Japanese.page932.decode?),
   (["ISO-2022-JP", "CSISO2022JP"], Iso2022.japanese.decode?), (["ISO-2022-JP-1"], Iso2022.japanese1.decode?),
   (["ISO-2022-JP-2", "CSISO2022JP2"], Iso2022.japanese2.decode?),
   (["ISO-2022-JP-MS", "CP50221"], Iso2022.japaneseWide.decode?),
   (["EUC-CN", "EUCCN", "GB2312", "CN-GB", "CSGB2312"], Chinese.extended.decode?),
   (["GBK"], Chinese.wide.decode?), (["CP936", "MS936", "WINDOWS-936"], Chinese.page936.decode?),
   (["GB18030"], Chinese.national.decode?), (["HZ", "HZ-GB-2312"], Chinese.braced.decode?),
   (["ISO-2022-CN", "CSISO2022CN", "ISO-2022-CN-EXT"], Iso2022.chinese.decode?),
   (["BIG5", "BIG-5", "BIGFIVE", "BIG-FIVE", "CN-BIG5", "CSBIG5"], Chinese.big5.decode?),
   (["CP950"], Chinese.page950.decode?), (["BIG5-HKSCS", "BIG5HKSCS"], Chinese.hongKong.decode?),
   (["EUC-TW", "EUCTW", "CSEUCTW"], Chinese.planes.decode?),
   (["EUC-KR", "EUCKR", "CSEUCKR"], Korean.extended.decode?), (["CP949", "UHC"], Korean.page949.decode?),
   (["JOHAB", "CP1361"], Korean.johab.decode?), (["ISO-2022-KR", "CSISO2022KR"], Iso2022.korean.decode?)]

/-- The pages with their names, in capitals. -/
def pagesNamed : List (List String × Page) :=
  Page.named ++ Iso.named ++ Windows.named ++ Pc.named ++ Cyrillic.named ++ Macintosh.named ++ National.named

/-- What a name stands for, if it is the name of a charset. -/
def ofName? (name : String) : Option Reading :=
  let name := name.map Char.toUpper
  let named := unicodeNamed ++ eastAsianNamed ++ pagesNamed.map fun p => (p.1, p.2.decode?)
  (named.find? fun p => p.1.contains name).map (·.2)

end EntityModel.Charset
