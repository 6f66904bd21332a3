import EntityModel.Charset.Page

/-!
# The code pages 1250 to 1258

The last 128 bytes are listed. Pages 1255 and 1258 write a letter with a point or a tone as two bytes, and the
two become one character where there is one.
-/

namespace EntityModel.Charset.Windows

/-- Code page 1250: Central European. -/
def windows1250 : Page where
  last :=
    "€\ufffd‚\ufffd„…†‡\ufffd‰Š‹ŚŤŽŹ\ufffd‘’“”•–—\ufffd™š›śťžź" ++
    "\u00a0ˇ˘Ł¤Ą¦§¨©Ş«¬\u00ad®Ż°±˛ł´µ¶·¸ąş»Ľ˝ľż" ++
    "ŔÁÂĂÄĹĆÇČÉĘËĚÍÎĎĐŃŇÓÔŐÖ×ŘŮÚŰÜÝŢß" ++
    "ŕáâăäĺćçčéęëěíîďđńňóôőö÷řůúűüýţ˙"

/-- Code page 1251: Cyrillic. -/
def windows1251 : Page where
  last :=
    "ЂЃ‚ѓ„…†‡€‰Љ‹ЊЌЋЏђ‘’“”•–—\ufffd™љ›њќћџ" ++
    "\u00a0ЎўЈ¤Ґ¦§Ё©Є«¬\u00ad®Ї°±Ііґµ¶·ё№є»јЅѕї" ++
    "АБВГДЕЖЗИЙКЛМНОПРСТУФХЦЧШЩЪЫЬЭЮЯ" ++
    "абвгдежзийклмнопрстуфхцчшщъыьэюя"

/-- Code page 1252: West European. -/
def windows1252 : Page where
  last :=
    "€\ufffd‚ƒ„…†‡ˆ‰Š‹Œ\ufffdŽ\ufffd\ufffd‘’“”•–—˜™š›œ\ufffdžŸ" ++
    "\u00a0¡¢£¤¥¦§¨©ª«¬\u00ad®¯°±²³´µ¶·¸¹º»¼½¾¿" ++
    "ÀÁÂÃÄÅÆÇÈÉÊËÌÍÎÏÐÑÒÓÔÕÖ×ØÙÚÛÜÝÞß" ++
    "àáâãäåæçèéêëìíîïðñòóôõö÷øùúûüýþÿ"

/-- Code page 1253: Greek. -/
def windows1253 : Page where
  last :=
    "€\ufffd‚ƒ„…†‡\ufffd‰\ufffd‹\ufffd\ufffd\ufffd\ufffd\ufffd‘’“”•–—\ufffd™\ufffd›\ufffd\ufffd\ufffd\ufffd" ++
    "\u00a0΅Ά£¤¥¦§¨©\ufffd«¬\u00ad®―°±²³΄µ¶·ΈΉΊ»Ό½ΎΏ" ++
    "ΐΑΒΓΔΕΖΗΘΙΚΛΜΝΞΟΠΡ\ufffdΣΤΥΦΧΨΩΪΫάέήί" ++
    "ΰαβγδεζηθικλμνξοπρςστυφχψωϊϋόύώ\ufffd"

/-- Code page 1254: Turkish. -/
def windows1254 : Page where
  last :=
    "€\ufffd‚ƒ„…†‡ˆ‰Š‹Œ\ufffd\ufffd\ufffd\ufffd‘’“”•–—˜™š›œ\ufffd\ufffdŸ" ++
    "\u00a0¡¢£¤¥¦§¨©ª«¬\u00ad®¯°±²³´µ¶·¸¹º»¼½¾¿" ++
    "ÀÁÂÃÄÅÆÇÈÉÊËÌÍÎÏĞÑÒÓÔÕÖ×ØÙÚÛÜİŞß" ++
    "àáâãäåæçèéêëìíîïğñòóôõö÷øùúûüışÿ"

/-- Code page 1255: Hebrew, with the points behind the letters. -/
def windows1255 : Page where
  last :=
    "€\ufffd‚ƒ„…†‡ˆ‰\ufffd‹\ufffd\ufffd\ufffd\ufffd\ufffd‘’“”•–—˜™\ufffd›\ufffd\ufffd\ufffd\ufffd" ++
    "\u00a0¡¢£₪¥¦§¨©×«¬\u00ad®¯°±²³´µ¶·¸¹÷»¼½¾¿" ++
    "\u05b0\u05b1\u05b2\u05b3\u05b4\u05b5\u05b6\u05b7\u05b8\u05b9\ufffd\u05bb\u05bc\u05bd\u05be\u05bf" ++
    "\u05c0\u05c1\u05c2\u05c3\u05f0\u05f1\u05f2\u05f3\u05f4\ufffd\ufffd\ufffd\ufffd\ufffd\ufffd\ufffd" ++
    "\u05d0\u05d1\u05d2\u05d3\u05d4\u05d5\u05d6\u05d7\u05d8\u05d9\u05da\u05db\u05dc\u05dd\u05de\u05df" ++
    "\u05e0\u05e1\u05e2\u05e3\u05e4\u05e5\u05e6\u05e7\u05e8\u05e9\u05ea\ufffd\ufffd\u200e\u200f\ufffd"
  turns := [
   [⟨'\u05b4',
     "\u05d9",
     "\ufb1d"⟩,
    ⟨'\u05b7',
     "\u05f2\u05d0",
     "\ufb1f\ufb2e"⟩,
    ⟨'\u05b8',
     "\u05d0",
     "\ufb2f"⟩,
    ⟨'\u05b9',
     "\u05d5",
     "\ufb4b"⟩,
    ⟨'\u05bc',
     "\u05d0\u05d1\u05d2\u05d3\u05d4\u05d5\u05d6\u05d8\u05d9\u05da\u05db\u05dc\u05de\u05e0" ++
       "\u05e1\u05e3\u05e4\u05e6\u05e7\u05e8\u05e9\u05ea",
     "\ufb30\ufb31\ufb32\ufb33\ufb34\ufb35\ufb36\ufb38\ufb39\ufb3a\ufb3b\ufb3c\ufb3e\ufb40" ++
       "\ufb41\ufb43\ufb44\ufb46\ufb47\ufb48\ufb49\ufb4a"⟩,
    ⟨'\u05bf',
     "\u05d1\u05db\u05e4",
     "\ufb4c\ufb4d\ufb4e"⟩,
    ⟨'\u05c1',
     "\u05e9",
     "\ufb2a"⟩,
    ⟨'\u05c2',
     "\u05e9",
     "\ufb2b"⟩],
   [⟨'\u05bc',
     "\ufb2a\ufb2b",
     "\ufb2c\ufb2d"⟩,
    ⟨'\u05c1',
     "\ufb49",
     "\ufb2c"⟩,
    ⟨'\u05c2',
     "\ufb49",
     "\ufb2d"⟩]]

/-- Code page 1256: Arabic. -/
def windows1256 : Page where
  last :=
    "€\u067e‚ƒ„…†‡ˆ‰\u0679‹Œ\u0686\u0698\u0688\u06af‘’“”•–—\u06a9™\u0691›œ\u200c\u200d\u06ba" ++
    "\u00a0\u060c¢£¤¥¦§¨©\u06be«¬\u00ad®¯°±²³´µ¶·¸¹\u061b»¼½¾\u061f" ++
    "\u06c1\u0621\u0622\u0623\u0624\u0625\u0626\u0627\u0628\u0629\u062a\u062b\u062c\u062d\u062e\u062f" ++
    "\u0630\u0631\u0632\u0633\u0634\u0635\u0636×\u0637\u0638\u0639\u063a\u0640\u0641\u0642\u0643" ++
    "à\u0644â\u0645\u0646\u0647\u0648çèéêë\u0649\u064aîï" ++
    "\u064b\u064c\u064d\u064eô\u064f\u0650÷\u0651ù\u0652ûü\u200e\u200f\u06d2"

/-- Code page 1257: Baltic. -/
def windows1257 : Page where
  last :=
    "€\ufffd‚\ufffd„…†‡\ufffd‰\ufffd‹\ufffd¨ˇ¸\ufffd‘’“”•–—\ufffd™\ufffd›\ufffd¯˛\ufffd" ++
    "\u00a0\ufffd¢£¤\ufffd¦§Ø©Ŗ«¬\u00ad®Æ°±²³´µ¶·ø¹ŗ»¼½¾æ" ++
    "ĄĮĀĆÄÅĘĒČÉŹĖĢĶĪĻŠŃŅÓŌÕÖ×ŲŁŚŪÜŻŽß" ++
    "ąįāćäåęēčéźėģķīļšńņóōõö÷ųłśūüżž˙"

/-- Code page 1258: Vietnamese, with the tones behind the letters. -/
def windows1258 : Page where
  last :=
    "€\ufffd‚ƒ„…†‡ˆ‰\ufffd‹Œ\ufffd\ufffd\ufffd\ufffd‘’“”•–—˜™\ufffd›œ\ufffd\ufffdŸ" ++
    "\u00a0¡¢£¤¥¦§¨©ª«¬\u00ad®¯°±²³´µ¶·¸¹º»¼½¾¿" ++
    "ÀÁÂĂÄÅÆÇÈÉÊË\u0300ÍÎÏĐÑ\u0309ÓÔƠÖ×ØÙÚÛÜƯ\u0303ß" ++
    "àáâăäåæçèéêë\u0301íîïđñ\u0323óôơö÷øùúûüư₫ÿ"
  turns := [
   [⟨'\u0300',
     "AEINOUWYaeinouwy¨ÂĂÊÔƠÜƯâăêôơüư",
     "ÀÈÌǸÒÙẀỲàèìǹòùẁỳ῭ẦẰỀỒỜǛỪầằềồờǜừ"⟩,
    ⟨'\u0301',
     "ACEGIKLMNOPRSUWYZacegiklmnoprsuwyz¨ÂĂÅÆÇÊÏÔƠØÜƯâăåæçêïôơøüư",
     "ÁĆÉǴÍḰĹḾŃÓṔŔŚÚẂÝŹáćéǵíḱĺḿńóṕŕśúẃýź΅ẤẮǺǼḈẾḮỐỚǾǗỨấắǻǽḉếḯốớǿǘứ"⟩,
    ⟨'\u0303',
     "AEINOUVYaeinouvyÂĂÊÓÔƠÖÚƯâăêóôơöúư",
     "ÃẼĨÑÕŨṼỸãẽĩñõũṽỹẪẴỄṌỖỠṎṸỮẫẵễṍỗỡṏṹữ"⟩,
    ⟨'\u0309',
     "AEIOUYaeiouyÂĂÊÔƠƯâăêôơư",
     "ẢẺỈỎỦỶảẻỉỏủỷẨẲỂỔỞỬẩẳểổởử"⟩,
    ⟨'\u0323',
     "ABDEHIKLMNORSTUVWYZabdehiklmnorstuvwyzÂĂÊÔƠƯâăêôơư",
     "ẠḄḌẸḤỊḲḶṂṆỌṚṢṬỤṾẈỴẒạḅḍẹḥịḳḷṃṇọṛṣṭụṿẉỵẓẬẶỆỘỢỰậặệộợự"⟩]]

/-- The names of the pages, in capitals. -/
def named : List (List String × Page) :=
  [(["WINDOWS-1250", "CP1250", "MS-EE"], windows1250),
   (["WINDOWS-1251", "CP1251", "MS-CYRL"], windows1251),
   (["WINDOWS-1252", "CP1252", "MS-ANSI"], windows1252),
   (["WINDOWS-1253", "CP1253", "MS-GREEK"], windows1253),
   (["WINDOWS-1254", "CP1254", "MS-TURK"], windows1254),
   (["WINDOWS-1255", "CP1255", "MS-HEBR"], windows1255),
   (["WINDOWS-1256", "CP1256", "MS-ARAB"], windows1256),
   (["WINDOWS-1257", "CP1257", "WINBALTRIM"], windows1257),
   (["WINDOWS-1258", "CP1258"], windows1258)]

end EntityModel.Charset.Windows
