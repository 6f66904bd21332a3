import EntityModel.Charset.Page

/-!
# The parts of ISO 8859

The parts behind the first one, which is no table. The first 160 bytes stand for the code points of the same
number. TIS 620 has the letters of part 11.
-/

namespace EntityModel.Charset.Iso

/-- ISO 8859, part 2: Central European. -/
def iso2 : Page where
  last :=
    "\u00a0Ą˘Ł¤ĽŚ§¨ŠŞŤŹ\u00adŽŻ°ą˛ł´ľśˇ¸šşťź˝žż" ++
    "ŔÁÂĂÄĹĆÇČÉĘËĚÍÎĎĐŃŇÓÔŐÖ×ŘŮÚŰÜÝŢß" ++
    "ŕáâăäĺćçčéęëěíîďđńňóôőö÷řůúűüýţ˙"

/-- ISO 8859, part 3: South European. -/
def iso3 : Page where
  last :=
    "\u00a0Ħ˘£¤\ufffdĤ§¨İŞĞĴ\u00ad\ufffdŻ°ħ²³´µĥ·¸ışğĵ½\ufffdż" ++
    "ÀÁÂ\ufffdÄĊĈÇÈÉÊËÌÍÎÏ\ufffdÑÒÓÔĠÖ×ĜÙÚÛÜŬŜß" ++
    "àáâ\ufffdäċĉçèéêëìíîï\ufffdñòóôġö÷ĝùúûüŭŝ˙"

/-- ISO 8859, part 4: North European. -/
def iso4 : Page where
  last :=
    "\u00a0ĄĸŖ¤ĨĻ§¨ŠĒĢŦ\u00adŽ¯°ą˛ŗ´ĩļˇ¸šēģŧŊžŋ" ++
    "ĀÁÂÃÄÅÆĮČÉĘËĖÍÎĪĐŅŌĶÔÕÖ×ØŲÚÛÜŨŪß" ++
    "āáâãäåæįčéęëėíîīđņōķôõö÷øųúûüũū˙"

/-- ISO 8859, part 5: Cyrillic. -/
def iso5 : Page where
  last :=
    "\u00a0ЁЂЃЄЅІЇЈЉЊЋЌ\u00adЎЏАБВГДЕЖЗИЙКЛМНОП" ++
    "РСТУФХЦЧШЩЪЫЬЭЮЯабвгдежзийклмноп" ++
    "рстуфхцчшщъыьэюя№ёђѓєѕіїјљњћќ§ўџ"

/-- ISO 8859, part 6: Arabic. -/
def iso6 : Page where
  last :=
    "\u00a0\ufffd\ufffd\ufffd¤\ufffd\ufffd\ufffd\ufffd\ufffd\ufffd\ufffd\u060c\u00ad\ufffd\ufffd" ++
    "\ufffd\ufffd\ufffd\ufffd\ufffd\ufffd\ufffd\ufffd\ufffd\ufffd\ufffd\u061b\ufffd\ufffd\ufffd\u061f" ++
    "\ufffd\u0621\u0622\u0623\u0624\u0625\u0626\u0627\u0628\u0629\u062a\u062b\u062c\u062d\u062e\u062f" ++
    "\u0630\u0631\u0632\u0633\u0634\u0635\u0636\u0637\u0638\u0639\u063a\ufffd\ufffd\ufffd\ufffd\ufffd" ++
    "\u0640\u0641\u0642\u0643\u0644\u0645\u0646\u0647\u0648\u0649\u064a\u064b\u064c\u064d\u064e\u064f" ++
    "\u0650\u0651\u0652\ufffd\ufffd\ufffd\ufffd\ufffd\ufffd\ufffd\ufffd\ufffd\ufffd\ufffd\ufffd\ufffd"

/-- ISO 8859, part 7: Greek. -/
def iso7 : Page where
  last :=
    "\u00a0‘’£€₯¦§¨©ͺ«¬\u00ad\ufffd―°±²³΄΅Ά·ΈΉΊ»Ό½ΎΏ" ++
    "ΐΑΒΓΔΕΖΗΘΙΚΛΜΝΞΟΠΡ\ufffdΣΤΥΦΧΨΩΪΫάέήί" ++
    "ΰαβγδεζηθικλμνξοπρςστυφχψωϊϋόύώ\ufffd"

/-- ISO 8859, part 8: Hebrew. -/
def iso8 : Page where
  last :=
    "\u00a0\ufffd¢£¤¥¦§¨©×«¬\u00ad®¯°±²³´µ¶·¸¹÷»¼½¾\ufffd" ++
    "\ufffd\ufffd\ufffd\ufffd\ufffd\ufffd\ufffd\ufffd\ufffd\ufffd\ufffd\ufffd\ufffd\ufffd\ufffd\ufffd" ++
    "\ufffd\ufffd\ufffd\ufffd\ufffd\ufffd\ufffd\ufffd\ufffd\ufffd\ufffd\ufffd\ufffd\ufffd\ufffd‗" ++
    "\u05d0\u05d1\u05d2\u05d3\u05d4\u05d5\u05d6\u05d7\u05d8\u05d9\u05da\u05db\u05dc\u05dd\u05de\u05df" ++
    "\u05e0\u05e1\u05e2\u05e3\u05e4\u05e5\u05e6\u05e7\u05e8\u05e9\u05ea\ufffd\ufffd\u200e\u200f\ufffd"

/-- ISO 8859, part 9: Turkish. -/
def iso9 : Page where
  last :=
    "\u00a0¡¢£¤¥¦§¨©ª«¬\u00ad®¯°±²³´µ¶·¸¹º»¼½¾¿" ++
    "ÀÁÂÃÄÅÆÇÈÉÊËÌÍÎÏĞÑÒÓÔÕÖ×ØÙÚÛÜİŞß" ++
    "àáâãäåæçèéêëìíîïğñòóôõö÷øùúûüışÿ"

/-- ISO 8859, part 10: Nordic. -/
def iso10 : Page where
  last :=
    "\u00a0ĄĒĢĪĨĶ§ĻĐŠŦŽ\u00adŪŊ°ąēģīĩķ·ļđšŧž―ūŋ" ++
    "ĀÁÂÃÄÅÆĮČÉĘËĖÍÎÏÐŅŌÓÔÕÖŨØŲÚÛÜÝÞß" ++
    "āáâãäåæįčéęëėíîïðņōóôõöũøųúûüýþĸ"

/-- ISO 8859, part 11: Thai. -/
def iso11 : Page where
  last :=
    "\u00a0กขฃคฅฆงจฉชซฌญฎฏฐฑฒณดตถทธนบปผฝพฟ" ++
    "ภมยรฤลฦวศษสหฬอฮฯะ\u0e31าำ\u0e34\u0e35\u0e36\u0e37\u0e38\u0e39\u0e3a\ufffd\ufffd\ufffd\ufffd฿" ++
    "เแโใไๅๆ\u0e47\u0e48\u0e49\u0e4a\u0e4b\u0e4c\u0e4d\u0e4e๏๐๑๒๓๔๕๖๗๘๙๚๛\ufffd\ufffd\ufffd\ufffd"

/-- ISO 8859, part 13: Baltic. -/
def iso13 : Page where
  last :=
    "\u00a0”¢£¤„¦§Ø©Ŗ«¬\u00ad®Æ°±²³“µ¶·ø¹ŗ»¼½¾æ" ++
    "ĄĮĀĆÄÅĘĒČÉŹĖĢĶĪĻŠŃŅÓŌÕÖ×ŲŁŚŪÜŻŽß" ++
    "ąįāćäåęēčéźėģķīļšńņóōõö÷ųłśūüżž’"

/-- ISO 8859, part 14: Celtic. -/
def iso14 : Page where
  last :=
    "\u00a0Ḃḃ£ĊċḊ§Ẁ©ẂḋỲ\u00ad®ŸḞḟĠġṀṁ¶ṖẁṗẃṠỳẄẅṡ" ++
    "ÀÁÂÃÄÅÆÇÈÉÊËÌÍÎÏŴÑÒÓÔÕÖṪØÙÚÛÜÝŶß" ++
    "àáâãäåæçèéêëìíîïŵñòóôõöṫøùúûüýŷÿ"

/-- ISO 8859, part 15: West European with the euro sign. -/
def iso15 : Page where
  last :=
    "\u00a0¡¢£€¥Š§š©ª«¬\u00ad®¯°±²³Žµ¶·ž¹º»ŒœŸ¿" ++
    "ÀÁÂÃÄÅÆÇÈÉÊËÌÍÎÏÐÑÒÓÔÕÖ×ØÙÚÛÜÝÞß" ++
    "àáâãäåæçèéêëìíîïðñòóôõö÷øùúûüýþÿ"

/-- ISO 8859, part 16: South-East European. -/
def iso16 : Page where
  last :=
    "\u00a0ĄąŁ€„Š§š©Ș«Ź\u00adźŻ°±ČłŽ”¶·žčș»ŒœŸż" ++
    "ÀÁÂĂÄĆÆÇÈÉÊËÌÍÎÏĐŃÒÓÔŐÖŚŰÙÚÛÜĘȚß" ++
    "àáâăäćæçèéêëìíîïđńòóôőöśűùúûüęțÿ"

/-- TIS 620: Thai, without control characters behind the first 128. -/
def tis620 : Page where
  last :=
    "\ufffd\ufffd\ufffd\ufffd\ufffd\ufffd\ufffd\ufffd\ufffd\ufffd\ufffd\ufffd\ufffd\ufffd\ufffd\ufffd" ++
    "\ufffd\ufffd\ufffd\ufffd\ufffd\ufffd\ufffd\ufffd\ufffd\ufffd\ufffd\ufffd\ufffd\ufffd\ufffd\ufffd" ++
    "\ufffdกขฃคฅฆงจฉชซฌญฎฏฐฑฒณดตถทธนบปผฝพฟ" ++
    "ภมยรฤลฦวศษสหฬอฮฯะ\u0e31าำ\u0e34\u0e35\u0e36\u0e37\u0e38\u0e39\u0e3a\ufffd\ufffd\ufffd\ufffd฿" ++
    "เแโใไๅๆ\u0e47\u0e48\u0e49\u0e4a\u0e4b\u0e4c\u0e4d\u0e4e๏๐๑๒๓๔๕๖๗๘๙๚๛\ufffd\ufffd\ufffd\ufffd"

/-- The names of the pages, in capitals. -/
def named : List (List String × Page) :=
  [(["ISO-8859-2", "ISO_8859-2", "ISO8859-2", "LATIN2", "L2", "ISO-LATIN-2", "CSISOLATIN2",
     "ISO-IR-101"], iso2),
   (["ISO-8859-3", "ISO_8859-3", "ISO8859-3", "LATIN3", "L3", "CSISOLATIN3", "ISO-IR-109"], iso3),
   (["ISO-8859-4", "ISO_8859-4", "ISO8859-4", "LATIN4", "L4", "CSISOLATIN4", "ISO-IR-110"], iso4),
   (["ISO-8859-5", "ISO_8859-5", "ISO8859-5", "CYRILLIC", "CSISOLATINCYRILLIC", "ISO-IR-144"], iso5),
   (["ISO-8859-6", "ISO_8859-6", "ISO8859-6", "ARABIC", "ASMO-708", "ECMA-114", "CSISOLATINARABIC",
     "ISO-IR-127"], iso6),
   (["ISO-8859-7", "ISO_8859-7", "ISO8859-7", "GREEK", "GREEK8", "ELOT_928", "ECMA-118",
     "CSISOLATINGREEK", "ISO-IR-126"], iso7),
   (["ISO-8859-8", "ISO_8859-8", "ISO8859-8", "HEBREW", "CSISOLATINHEBREW", "ISO-IR-138"], iso8),
   (["ISO-8859-9", "ISO_8859-9", "ISO8859-9", "LATIN5", "L5", "CSISOLATIN5", "ISO-IR-148"], iso9),
   (["ISO-8859-10", "ISO_8859-10", "ISO8859-10", "LATIN6", "L6", "CSISOLATIN6", "ISO-IR-157"], iso10),
   (["ISO-8859-11", "ISO_8859-11", "ISO8859-11"], iso11),
   (["ISO-8859-13", "ISO_8859-13", "ISO8859-13", "LATIN7", "L7", "ISO-IR-179"], iso13),
   (["ISO-8859-14", "ISO_8859-14", "ISO8859-14", "LATIN8", "L8", "ISO-CELTIC", "ISO-IR-199"], iso14),
   (["ISO-8859-15", "ISO_8859-15", "ISO8859-15", "LATIN-9", "ISO-IR-203"], iso15),
   (["ISO-8859-16", "ISO_8859-16", "ISO8859-16", "LATIN10", "L10", "ISO-IR-226"], iso16),
   (["TIS-620", "TIS620", "TIS620-0", "TIS620.2529-1", "TIS620.2533-0", "TIS620.2533-1", "ISO-IR-166"],
     tis620)]

end EntityModel.Charset.Iso
