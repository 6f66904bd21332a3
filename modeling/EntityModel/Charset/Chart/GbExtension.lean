import EntityModel.Charset.Chart

/-!
# Additions to GB 2312

What the two extensions of GB 2312 put around its chart, in rows of 190 places. The first row is the one of
the byte 0x81. The ideographs that GB 2312 leaves out are no part of the tables.
-/

namespace EntityModel.Charset.GbExtension

/-- The signs that the extension adds to GB 2312, or puts in the place of its own. -/
def signs : Chart :=
  [.ofLines (190 * 32 + 99) [
     "·"],
   .ofLines (190 * 32 + 105) [
     "—"],
   .ofLines (190 * 33 + 96) [
     "ⅰⅱⅲⅳⅴⅵⅶⅷⅸⅹ"],
   .ofLines (190 * 37 + 159) [
     "︵︶︹︺︿﹀︽︾﹁﹂﹃﹄"],
   .ofLines (190 * 37 + 173) [
     "︻︼︷︸︱\ufffd︳︴"],
   .ofLines (190 * 39) [
     "ˊˋ˙–―‥‵℅℉↖↗↘↙∕∟∣≒≦≧⊿═║╒╓╔╕╖╗╘╙╚╛╜╝╞╟╠╡╢╣╤╥╦╧╨╩╪",
     "╫╬╭╮╯╰╱╲╳▁▂▃▄▅▆▇█▉▊▋▌▍▎▏▓▔▕▼▽◢◣◤◥☉⊕〒〝〞"],
   .ofLines (190 * 39 + 122) [
     "ɑ\ufffdńň\ufffdɡ"],
   .ofLines (190 * 40) [
     "〡〢〣〤〥〦〧〨〩㊣㎎㎏㎜㎝㎞㎡㏄㏎㏑㏒㏕︰￢￤\ufffd℡㈱\ufffd‐"],
   .ofLines (190 * 40 + 32) [
     "ー゛゜ヽヾ〆ゝゞ﹉﹊﹋﹌﹍﹎﹏﹐﹑﹒﹔﹕﹖﹗﹙﹚﹛﹜﹝﹞﹟﹠﹡﹢﹣﹤﹥﹦﹨﹩﹪﹫"],
   .ofLines (190 * 40 + 85) [
     "〇"]]

/-- The ideographs that stand behind the ones that GB 2312 leaves out. -/
def compatible : String := "郎凉秊裏隣兀嗀﨎﨏﨑﨓﨔礼﨟蘒﨡﨣﨤﨧﨨﨩"

/-- The characters that GB 18030 adds in two bytes. -/
def later : Chart :=
  [.ofLines (190 * 33 + 162) [
     "€"],
   .ofLines (190 * 39 + 126) [
     "ǹ"],
   .ofLines (190 * 40 + 72) [
     "〾⿰⿱⿲⿳⿴⿵⿶⿷⿸⿹⿺⿻"],
   .ofLines (190 * 125 + 16) [
     "⺁"],
   .ofLines (190 * 125 + 20) [
     "⺄㑳㑇⺈⺋"],
   .ofLines (190 * 125 + 26) [
     "㖞㘚㘎⺌⺗㥮㤘"],
   .ofLines (190 * 125 + 34) [
     "㧏㧟㩳㧐"],
   .ofLines (190 * 125 + 40) [
     "㭎㱮㳠⺧"],
   .ofLines (190 * 125 + 46) [
     "⺪䁖䅟⺮䌷⺳⺶⺷"],
   .ofLines (190 * 125 + 55) [
     "䎱䎬⺻䏝䓖䙡䙌"],
   .ofLines (190 * 125 + 63) [
     "䜣䜩䝼䞍⻊䥇䥺䥽䦂䦃䦅䦆䦟䦛䦷䦶"],
   .ofLines (190 * 125 + 81) [
     "䲣䲟䲠䲡䱷䲢䴓䴔䴕䴖䴗䴘䴙䶮"]]

/-- The places that GB 18030 leaves to private characters: a place, its code point, and how many places there are. -/
def left : List (Nat × Nat × Nat) :=
  [(190 * 33 + 106, 0xE766, 6), (190 * 33 + 163, 0xE76D, 1), (190 * 33 + 174, 0xE76E, 2),
   (190 * 33 + 188, 0xE770, 2), (190 * 35 + 179, 0xE772, 11), (190 * 36 + 182, 0xE77D, 8),
   (190 * 37 + 120, 0xE785, 8), (190 * 37 + 152, 0xE78D, 7), (190 * 37 + 171, 0xE794, 2),
   (190 * 37 + 178, 0xE796, 1), (190 * 37 + 181, 0xE797, 9), (190 * 38 + 129, 0xE7A0, 15),
   (190 * 38 + 177, 0xE7AF, 13), (190 * 39 + 85, 0xE7BC, 11), (190 * 39 + 123, 0xE7C7, 1),
   (190 * 39 + 128, 0xE7C9, 4), (190 * 39 + 169, 0xE7CD, 21), (190 * 40 + 24, 0xE7E2, 1),
   (190 * 40 + 27, 0xE7E3, 1), (190 * 40 + 29, 0xE7E4, 3), (190 * 40 + 86, 0xE7F4, 13),
   (190 * 40 + 175, 0xE801, 15), (190 * 86 + 185, 0xE810, 5), (190 * 125 + 17, 0xE816, 3),
   (190 * 125 + 25, 0xE81E, 1), (190 * 125 + 33, 0xE826, 1), (190 * 125 + 38, 0xE82B, 2),
   (190 * 125 + 44, 0xE831, 2), (190 * 125 + 54, 0xE83B, 1), (190 * 125 + 62, 0xE843, 1),
   (190 * 125 + 79, 0xE854, 2), (190 * 125 + 95, 0xE864, 1)]

end EntityModel.Charset.GbExtension
