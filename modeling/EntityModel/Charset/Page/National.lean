import EntityModel.Charset.Page

/-!
# Other pages of one language or one kind of machine

The two Vietnamese pages use control codes for letters as well. One of them writes tones behind letters.
-/

namespace EntityModel.Charset.National

/-- Armenian. -/
def armscii8 : Page where
  last :=
    "\u00a0\ufffdև։)(»«—.՝,-֊…՜՛՞ԱաԲբԳգԴդԵեԶզԷէ" ++
    "ԸըԹթԺժԻիԼլԽխԾծԿկՀհՁձՂղՃճՄմՅյՆնՇշ" ++
    "ՈոՉչՊպՋջՌռՍսՎվՏտՐրՑցՒւՓփՔքՕօՖֆ՚\ufffd"

/-- Georgian, as the academy of sciences lays it down. -/
def georgianAcademy : Page where
  last :=
    "\x80\x81‚ƒ„…†‡ˆ‰Š‹Œ\x8d\x8e\x8f\x90‘’“”•–—˜™š›œ\x9d\x9eŸ" ++
    "\u00a0¡¢£¤¥¦§¨©ª«¬\u00ad®¯°±²³´µ¶·¸¹º»¼½¾¿" ++
    "აბგდევზთიკლმნოპჟრსტუფქღყშჩცძწჭხჯ" ++
    "ჰჱჲჳჴჵჶçèéêëìíîïðñòóôõö÷øùúûüýþÿ"

/-- Georgian, after code page 1252. -/
def georgianPs : Page where
  last :=
    "\x80\x81‚ƒ„…†‡ˆ‰Š‹Œ\x8d\x8e\x8f\x90‘’“”•–—˜™š›œ\x9d\x9eŸ" ++
    "\u00a0¡¢£¤¥¦§¨©ª«¬\u00ad®¯°±²³´µ¶·¸¹º»¼½¾¿" ++
    "აბგდევზჱთიკლმნჲოპჟრსტჳუფქღყშჩცძწ" ++
    "ჭხჴჯჰჵæçèéêëìíîïðñòóôõö÷øùúûüýþÿ"

/-- Vietnamese, with six letters in place of control characters. -/
def viscii : Page where
  last :=
    "ẠẮẰẶẤẦẨẬẼẸẾỀỂỄỆỐỒỔỖỘỢỚỜỞỊỎỌỈỦŨỤỲ" ++
    "ÕắằặấầẩậẽẹếềểễệốồổỗỠƠộờởịỰỨỪỬơớƯ" ++
    "ÀÁÂÃẢĂẳẵÈÉÊẺÌÍĨỳĐứÒÓÔạỷừửÙÚỹỵÝỡư" ++
    "àáâãảăữẫèéêẻìíĩỉđựòóôõỏọụùúũủýợỮ"
  changed :=
    [(0x02, 'Ẳ'), (0x05, 'Ẵ'), (0x06, 'Ẫ'), (0x14, 'Ỷ'), (0x19, 'Ỹ'), (0x1E, 'Ỵ')]

/-- Vietnamese of the national standard, with the tones behind the letters. -/
def tcvn : Page where
  last :=
    "ÀẢÃÁẠẶẬÈẺẼÉẸỆÌỈĨÍỊÒỎÕÓỌỘỜỞỠỚỢÙỦŨ" ++
    "\u00a0ĂÂÊÔƠƯĐăâêôơưđẰ\u0300\u0309\u0303\u0301\u0323àảãáạẲằẳẵắẴ" ++
    "ẮẦẨẪẤỀặầẩẫấậèỂẻẽéẹềểễếệìỉỄẾỒĩíịò" ++
    "ỔỏõóọồổỗốộờởỡớợùỖủũúụừửữứựỳỷỹýỵỐ"
  changed :=
    [(0x01, 'Ú'), (0x02, 'Ụ'), (0x04, 'Ừ'), (0x05, 'Ử'), (0x06, 'Ữ'), (0x11, 'Ứ'), (0x12, 'Ự'),
    (0x13, 'Ỳ'), (0x14, 'Ỷ'), (0x15, 'Ỹ'), (0x16, 'Ý'), (0x17, 'Ỵ')]
  turns := [
   [⟨'\u0300',
     "AEINOUWYaeinouwyĂÂÊÔƠƯăâêôơư",
     "ÀÈÌǸÒÙẀỲàèìǹòùẁỳẰẦỀỒỜỪằầềồờừ"⟩,
    ⟨'\u0301',
     "ACEGIKLMNOPRSUWYZacegiklmnoprsuwyzÕŨĂÂÊÔƠƯăâêôơưõũ",
     "ÁĆÉǴÍḰĹḾŃÓṔŔŚÚẂÝŹáćéǵíḱĺḿńóṕŕśúẃýźṌṸẮẤẾỐỚỨắấếốớứṍṹ"⟩,
    ⟨'\u0303',
     "ÚAEINOUVYaeinouvyÓĂÂÊÔƠƯăâêôơưóú",
     "ṸÃẼĨÑÕŨṼỸãẽĩñõũṽỹṌẴẪỄỖỠỮẵẫễỗỡữṍṹ"⟩,
    ⟨'\u0309',
     "AEIOUYaeiouyĂÂÊÔƠƯăâêôơư",
     "ẢẺỈỎỦỶảẻỉỏủỷẲẨỂỔỞỬẳẩểổởử"⟩,
    ⟨'\u0323',
     "ABDEHIKLMNORSTUVWYZabdehiklmnorstuvwyzĂÂÊÔƠƯăâêôơư",
     "ẠḄḌẸḤỊḲḶṂṆỌṚṢṬỤṾẈỴẒạḅḍẹḥịḳḷṃṇọṛṣṭụṿẉỵẓẶẬỆỘỢỰặậệộợự"⟩]]

/-- Lao, in the order of its code points. -/
def lao : Page where
  last :=
    "\u00a0ກຂ\ufffdຄ\ufffd\ufffdງຈ\ufffdຊ\ufffd\ufffdຍ\ufffd\ufffd\ufffd\ufffd\ufffd\ufffdດຕຖທ\ufffdນບປຜຝພຟ" ++
    "\ufffdມຢຣ\ufffdລ\ufffdວ\ufffd\ufffdສຫ\ufffdອຮຯ" ++
    "ະ\u0eb1າຳ\u0eb4\u0eb5\u0eb6\u0eb7\u0eb8\u0eb9\ufffd\u0ebb\u0ebcຽ\ufffd\ufffd" ++
    "ເແໂໃໄ\ufffdໆ\ufffd\u0ec8\u0ec9\u0eca\u0ecb\u0ecc\u0ecd\ufffd\ufffd໐໑໒໓໔໕໖໗໘໙\ufffd\ufffdໜໝ\ufffd\ufffd"

/-- Roman-8: West European, as printers have it. -/
def roman8 : Page where
  last :=
    "\u00a0ÀÂÈÊËÎÏ´ˋˆ¨˜ÙÛ₤¯Ýý°ÇçÑñ¡¿¤£¥§ƒ¢" ++
    "âêôûáéóúàèòùäëöüÅîØÆåíøæÄìÖÜÉïßÔ" ++
    "ÁÃãÐðÍÌÓÒÕõŠšÚŸÿÞþ·µ¶¾—¼½ªº«■»±\ufffd"

/-- West European, as work stations have it. -/
def nextstep : Page where
  last :=
    "\u00a0ÀÁÂÃÄÅÇÈÉÊËÌÍÎÏÐÑÒÓÔÕÖÙÚÛÜÝÞµ×÷" ++
    "©¡¢£⁄¥ƒ§¤’“«‹›ﬁﬂ®–†‡·¦¶•‚„”»…‰¬¿" ++
    "¹ˋ´ˆ˜¯˘˙¨²˚¸³˝˛ˇ—±¼½¾àáâãäåçèéêë" ++
    "ìÆíªîïðñŁØŒºòóôõöæùúûıüýłøœßþÿ\ufffd\ufffd"

/-- The names of the pages, in capitals. -/
def named : List (List String × Page) :=
  [(["ARMSCII-8"], armscii8),
   (["GEORGIAN-ACADEMY"], georgianAcademy),
   (["GEORGIAN-PS"], georgianPs),
   (["VISCII", "VISCII1.1-1", "CSVISCII"], viscii),
   (["TCVN", "TCVN-5712", "TCVN5712-1"], tcvn),
   (["MULELAO-1"], lao),
   (["HP-ROMAN8", "ROMAN8", "R8", "CSHPROMAN8"], roman8),
   (["NEXTSTEP"], nextstep)]

end EntityModel.Charset.National
