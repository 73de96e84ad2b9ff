import Lexical.Pattern.Property.Table

/-! The characters of each script, and of the scripts that share characters with others. -/

namespace Lexical.Pattern.Property

/-- The characters that belong to one script first of all. -/
def scripts : List Table := [
  { names := ["adlm", "adlam"]
    rows := ["1e900+4b 4+9 4+1"] },
  { names := ["aghb", "caucasianalbanian"]
    rows := ["10530+33 b"] },
  { names := ["ahom"]
    rows := ["11700+1a 2+e 4+16"] },
  { names := ["arab", "arabic"]
    rows := [
      "600+4 1+5 1+d 1+2 1+1f 1+9 b+19 1+6b 1+21 50+2f f0+21 5+4a 1+1c f250+1ed 2+8f 20+f 70+4",
      "1+86 f63+1e 43+5 8+8 21+5 df00+3 1+1a 1+1 1 2 1+9 1+3 1 1 6 4 1 1 1+2 1+1 1 2 1 1 1 1",
      "1+1 1 2+3 1+6 1+3 1+3 1 1+9 1+10 5+2 1+4 1+10 34+1"] },
  { names := ["armi", "imperialaramaic"]
    rows := ["10840+15 1+8"] },
  { names := ["armn", "armenian"]
    rows := ["531+25 2+31 2+2 f583+4"] },
  { names := ["avst", "avestan"]
    rows := ["10b00+35 3+6"] },
  { names := ["bali", "balinese"]
    rows := ["1b00+4c 1+31"] },
  { names := ["bamu", "bamum"]
    rows := ["a6a0+57 c108+238"] },
  { names := ["bass", "bassavah"]
    rows := ["16ad0+1d 2+5"] },
  { names := ["batk", "batak"]
    rows := ["1bc0+33 8+3"] },
  { names := ["beng", "bengali"]
    rows := ["980+3 1+7 2+1 2+15 1+6 1 3+3 2+8 2+1 2+3 8 4+1 1+4 2+18"] },
  { names := ["berf", "beriaerfeh"]
    rows := ["16ea0+18 2+18"] },
  { names := ["bhks", "bhaiksuki"]
    rows := ["11c00+8 1+2c 1+d a+1c"] },
  { names := ["bopo", "bopomofo"]
    rows := ["2ea+1 2e19+2a 70+1f"] },
  { names := ["brah", "brahmi"]
    rows := ["11000+4d 4+23 9"] },
  { names := ["brai", "braille"]
    rows := ["2800+ff"] },
  { names := ["bugi", "buginese"]
    rows := ["1a00+1b 2+1"] },
  { names := ["buhd", "buhid"]
    rows := ["1740+13"] },
  { names := ["cakm", "chakma"]
    rows := ["11100+34 1+11"] },
  { names := ["cans", "canadianaboriginal"]
    rows := ["1400+27f 230+45 101ba+f"] },
  { names := ["cari", "carian"]
    rows := ["102a0+30"] },
  { names := ["cham"]
    rows := ["aa00+36 9+d 2+9 2+3"] },
  { names := ["cher", "cherokee"]
    rows := ["13a0+55 2+5 9772+4f"] },
  { names := ["chrs", "chorasmian"]
    rows := ["10fb0+1b"] },
  { names := ["copt", "coptic", "qaac"]
    rows := ["3e2+d 2890+73 5+6"] },
  { names := ["cpmn", "cyprominoan"]
    rows := ["12f90+62"] },
  { names := ["cprt", "cypriot"]
    rows := ["10800+5 2 1+2b 1+1 3 2"] },
  { names := ["cyrl", "cyrillic"]
    rows := ["400+84 2+a8 1750+a a0 4c 1067+1f 7840+5f 578e+1 e200+3d 21"] },
  { names := ["deva", "devanagari"]
    rows := ["900+50 4+e 2+19 9f60+1f 7200+9"] },
  { names := ["diak", "divesakuru"]
    rows := ["11900+6 2 2+7 1+1 1+1d 1+1 2+b 9+9"] },
  { names := ["dogr", "dogra"]
    rows := ["11800+3b"] },
  { names := ["dsrt", "deseret"]
    rows := ["10400+4f"] },
  { names := ["dupl", "duployan"]
    rows := ["1bc00+6a 5+c 3+8 7+9 2+3"] },
  { names := ["egyp", "egyptianhieroglyphs"]
    rows := ["13000+455 a+f9a"] },
  { names := ["elba", "elbasan"]
    rows := ["10500+27"] },
  { names := ["elym", "elymaic"]
    rows := ["10fe0+16"] },
  { names := ["ethi", "ethiopic"]
    rows := [
      "1200+48 1+3 2+6 1 1+3 2+28 1+3 2+20 1+3 2+6 1 1+3 2+e 1+38 1+3 2+42 2+1f 3+19 19e6+16",
      "9+6 1+6 1+6 1+6 1+6 1+6 1+6 1+6 7d22+5 2+5 2+5 9+6 1+6 13cb1+6 1+3 1+1 1+e"] },
  { names := ["gara", "garay"]
    rows := ["10d40+25 3+1c 8+1"] },
  { names := ["geor", "georgian"]
    rows := ["10a0+25 1 5 2+2a 1+3 b90+2a 2+2 1040+25 1 5"] },
  { names := ["glag", "glagolitic"]
    rows := ["2c00+5f 1b3a0+6 1+10 2+6 1+1 1+4"] },
  { names := ["gong", "gunjalagondi"]
    rows := ["11d60+5 1+1 1+24 1+1 1+5 7+9"] },
  { names := ["gonm", "masaramgondi"]
    rows := ["11d00+6 1+1 1+2b 3 1+1 1+8 8+9"] },
  { names := ["goth", "gothic"]
    rows := ["10330+1a"] },
  { names := ["gran", "grantha"]
    rows := ["11300+3 1+7 2+1 2+15 1+6 1+1 1+4 2+8 2+1 2+2 2 6 5+6 2+6 3+4"] },
  { names := ["grek", "greek"]
    rows := [
      "370+3 1+2 2+3 1 4 1 1+2 1 1+13 1+3e e+f 1926+4 32+4 4+4 54 140+15 2+5 2+25 2+5 2+7 1 1",
      "1 1+1e 2+34 1+e 1+d 2+5 1+12 2+2 1+8 127 8a3e 55da+4e 11 d05f+45"] },
  { names := ["gujr", "gujarati"]
    rows := ["a81+2 1+8 1+2 1+15 1+6 1+1 1+4 2+9 1+2 1+2 2 f+3 2+b 7+6"] },
  { names := ["gukh", "gurungkhema"]
    rows := ["16100+39"] },
  { names := ["guru", "gurmukhi"]
    rows := ["a01+2 1+5 4+1 2+15 1+6 1+1 1+1 1+1 2 1+4 4+1 2+2 3 7+3 1 7+10"] },
  { names := ["hang", "hangul"]
    rows := [
      "1100+ff 1e2e+1 101+5d 71+1e 41+1e 76e1+1c 283+2ba3 c+16 4+30 27a4+1e 3+5 2+5 2+5 2+2"] },
  { names := ["hani", "han"]
    rows := [
      "2e80+19 1+58 c+d5 2f 1 19+8 e+3 3c4+19bf 40+51ff 5900+16d 2+69 7508+1 c+6 9009+a6df",
      "20+111d 2+168d 2+1d30 f+26d 9a2+21d 5e2+134a 5+2129"] },
  { names := ["hano", "hanunoo"]
    rows := ["1720+14"] },
  { names := ["hatr", "hatran"]
    rows := ["108e0+12 1+1 5+4"] },
  { names := ["hebr", "hebrew"]
    rows := ["591+36 8+1a 4+5 f528+19 1+4 1 1+1 1+1 1+9"] },
  { names := ["hira", "hiragana"]
    rows := ["3041+55 6+2 17f61+11e 12 1d+2 40ad"] },
  { names := ["hluw", "anatolianhieroglyphs"]
    rows := ["14400+246"] },
  { names := ["hmng", "pahawhhmong"]
    rows := ["16b00+45 a+9 1+6 1+14 5+12"] },
  { names := ["hmnp", "nyiakengpuachuehmong"]
    rows := ["1e100+2c 3+d 2+9 4+1"] },
  { names := ["hung", "oldhungarian"]
    rows := ["10c80+32 d+32 7+5"] },
  { names := ["ital", "olditalic"]
    rows := ["10300+23 9+2"] },
  { names := ["java", "javanese"]
    rows := ["a980+4d 2+9 4+1"] },
  { names := ["kali", "kayahli"]
    rows := ["a900+2d 1"] },
  { names := ["kana", "katakana"]
    rows := ["30a1+59 2+2 f0+f d0+2e 1+57 cc0e+9 1+2c b052+3 1+6 1+1 1 11f+2 32 e+3"] },
  { names := ["kawi"]
    rows := ["11f00+10 1+28 3+1c"] },
  { names := ["khar", "kharoshthi"]
    rows := ["10a00+3 1+1 5+7 1+2 1+1c 2+2 4+9 7+8"] },
  { names := ["khmr", "khmer"]
    rows := ["1780+5d 2+9 6+9 1e6+1f"] },
  { names := ["khoj", "khojki"]
    rows := ["11200+11 1+2e"] },
  { names := ["kits", "khitansmallscript"]
    rows := ["16fe4 1b1b+1d5 29"] },
  { names := ["knda", "kannada"]
    rows := ["c80+c 1+2 1+16 1+9 1+4 2+8 1+2 1+3 7+1 5+2 1+3 2+9 1+2"] },
  { names := ["krai", "kiratrai"]
    rows := ["16d40+39"] },
  { names := ["kthi", "kaithi"]
    rows := ["11080+42 a"] },
  { names := ["lana", "taitham"]
    rows := ["1a20+3e 1+1c 2+a 6+9 6+d"] },
  { names := ["laoo", "lao"]
    rows := ["e81+1 1 1+4 1+17 1 1+16 2+4 1 1+6 1+9 2+3"] },
  { names := ["latn", "latin"]
    rows := [
      "41+19 6+19 2f f 5+16 1+1e 1+1c0 27+4 1a1b+25 6+30 5+3 5+c 1+45 41+ff 171 d 10+c 8d+1 6",
      "1b 11+28 ad7+1f 7aa2+65 3+51 14+e 330+2a 1+8 1+3 4f96+6 41a+19 6+19 825+5 1+29 1+8",
      "d745+1e 6+5"] },
  { names := ["lepc", "lepcha"]
    rows := ["1c00+37 3+e 3+2"] },
  { names := ["limb", "limbu"]
    rows := ["1900+1e 1+b 4+b 4 3+b"] },
  { names := ["lina", "lineara"]
    rows := ["10600+136 9+15 a+7"] },
  { names := ["linb", "linearb"]
    rows := ["10000+b 1+19 1+12 1+1 1+e 2+d 22+7a"] },
  { names := ["lisu"]
    rows := ["a4d0+2f 7ab0"] },
  { names := ["lyci", "lycian"]
    rows := ["10280+1c"] },
  { names := ["lydi", "lydian"]
    rows := ["10920+19 5"] },
  { names := ["mahj", "mahajani"]
    rows := ["11150+26"] },
  { names := ["maka", "makasar"]
    rows := ["11ee0+18"] },
  { names := ["mand", "mandaic"]
    rows := ["840+1b 2"] },
  { names := ["mani", "manichaean"]
    rows := ["10ac0+26 4+b"] },
  { names := ["marc", "marchen"]
    rows := ["11c70+1f 2+15 1+d"] },
  { names := ["medf", "medefaidrin"]
    rows := ["16e40+5a"] },
  { names := ["mend", "mendekikakui"]
    rows := ["1e800+c4 2+f"] },
  { names := ["merc", "meroiticcursive"]
    rows := ["109a0+17 4+13 2+2d"] },
  { names := ["mero", "meroitichieroglyphs"]
    rows := ["10980+1f"] },
  { names := ["mlym", "malayalam"]
    rows := ["d00+c 1+2 1+32 1+2 1+5 4+f 2+19"] },
  { names := ["modi"]
    rows := ["11600+44 b+9"] },
  { names := ["mong", "mongolian"]
    rows := ["1800+1 2 1+13 6+58 7+2a fdb5+c"] },
  { names := ["mroo", "mro"]
    rows := ["16a40+1e 1+9 4+1"] },
  { names := ["mtei", "meeteimayek"]
    rows := ["aae0+16 c9+2d 2+9"] },
  { names := ["mult", "multani"]
    rows := ["11280+6 1 1+3 1+e 1+a"] },
  { names := ["mymr", "myanmar"]
    rows := ["1000+9f 9940+1e 61+1f 6c50+13"] },
  { names := ["nagm", "nagmundari"]
    rows := ["1e4d0+29"] },
  { names := ["nand", "nandinagari"]
    rows := ["119a0+7 2+2d 2+a"] },
  { names := ["narb", "oldnortharabian"]
    rows := ["10a80+1f"] },
  { names := ["nbat", "nabataean"]
    rows := ["10880+1e 8+8"] },
  { names := ["newa"]
    rows := ["11400+5b 1+4"] },
  { names := ["nkoo", "nko"]
    rows := ["7c0+3a 2+2"] },
  { names := ["nshu", "nushu"]
    rows := ["16fe1 418e+18b"] },
  { names := ["ogam", "ogham"]
    rows := ["1680+1c"] },
  { names := ["olck", "olchiki"]
    rows := ["1c50+2f"] },
  { names := ["onao", "olonal"]
    rows := ["1e5d0+2a 4"] },
  { names := ["orkh", "oldturkic"]
    rows := ["10c00+48"] },
  { names := ["orya", "oriya"]
    rows := ["b01+2 1+7 2+1 2+15 1+6 1+1 1+4 2+8 2+1 2+2 7+2 4+1 1+4 2+11"] },
  { names := ["osge", "osage"]
    rows := ["104b0+23 4+23"] },
  { names := ["osma", "osmanya"]
    rows := ["10480+1d 2+9"] },
  { names := ["ougr", "olduyghur"]
    rows := ["10f70+19"] },
  { names := ["palm", "palmyrene"]
    rows := ["10860+1f"] },
  { names := ["pauc", "paucinhau"]
    rows := ["11ac0+38"] },
  { names := ["perm", "oldpermic"]
    rows := ["10350+2a"] },
  { names := ["phag", "phagspa"]
    rows := ["a840+37"] },
  { names := ["phli", "inscriptionalpahlavi"]
    rows := ["10b60+12 5+7"] },
  { names := ["phlp", "psalterpahlavi"]
    rows := ["10b80+11 7+3 c+6"] },
  { names := ["phnx", "phoenician"]
    rows := ["10900+1b 3"] },
  { names := ["plrd", "miao"]
    rows := ["16f00+4a 4+38 7+10"] },
  { names := ["prti", "inscriptionalparthian"]
    rows := ["10b40+15 2+7"] },
  { names := ["rjng", "rejang"]
    rows := ["a930+23 b"] },
  { names := ["rohg", "hanifirohingya"]
    rows := ["10d00+27 8+9"] },
  { names := ["runr", "runic"]
    rows := ["16a0+4a 3+a"] },
  { names := ["samr", "samaritan"]
    rows := ["800+2d 2+e"] },
  { names := ["sarb", "oldsoutharabian"]
    rows := ["10a60+1f"] },
  { names := ["saur", "saurashtra"]
    rows := ["a880+45 8+b"] },
  { names := ["sgnw", "signwriting"]
    rows := ["1d800+28b f+4 1+e"] },
  { names := ["shaw", "shavian"]
    rows := ["10450+2f"] },
  { names := ["shrd", "sharada"]
    rows := ["11180+5f 980+7"] },
  { names := ["sidd", "siddham"]
    rows := ["11580+35 2+25"] },
  { names := ["sidt", "sidetic"]
    rows := ["10940+19"] },
  { names := ["sind", "khudawadi"]
    rows := ["112b0+3a 5+9"] },
  { names := ["sinh", "sinhala"]
    rows := ["d81+2 1+11 3+17 1+8 1 2+6 3 4+5 1 1+7 6+9 2+2 103ec+13"] },
  { names := ["sogd", "sogdian"]
    rows := ["10f30+29"] },
  { names := ["sogo", "oldsogdian"]
    rows := ["10f00+27"] },
  { names := ["sora", "sorasompeng"]
    rows := ["110d0+18 7+9"] },
  { names := ["soyo", "soyombo"]
    rows := ["11a50+52"] },
  { names := ["sund", "sundanese"]
    rows := ["1b80+3f 100+7"] },
  { names := ["sunu", "sunuwar"]
    rows := ["11bc0+21 e+9"] },
  { names := ["sylo", "sylotinagri"]
    rows := ["a800+2c"] },
  { names := ["syrc", "syriac"]
    rows := ["700+d 1+3b 2+2 110+a"] },
  { names := ["tagb", "tagbanwa"]
    rows := ["1760+c 1+2 1+1"] },
  { names := ["takr", "takri"]
    rows := ["11680+39 6+9"] },
  { names := ["tale", "taile"]
    rows := ["1950+1d 2+4"] },
  { names := ["talu", "newtailue"]
    rows := ["1980+2b 4+19 6+a 3+1"] },
  { names := ["taml", "tamil"]
    rows := ["b82+1 1+5 3+2 1+3 3+1 1 1+1 3+1 3+2 3+b 4+4 3+2 1+3 2 6 e+14 113c5+31 d"] },
  { names := ["tang", "tangut"]
    rows := ["16fe0 1f+1aff 200+1e 61+72"] },
  { names := ["tavt", "taiviet"]
    rows := ["aa80+42 18+4"] },
  { names := ["tayo", "taiyo"]
    rows := ["1e6c0+1e 1+15 8+1"] },
  { names := ["telu", "telugu"]
    rows := ["c00+c 1+2 1+16 1+f 2+8 1+2 1+3 7+1 1+2 1+1 2+3 2+9 7+8"] },
  { names := ["tfng", "tifinagh"]
    rows := ["2d30+37 7+1 e"] },
  { names := ["tglg", "tagalog"]
    rows := ["1700+15 9"] },
  { names := ["thaa", "thaana"]
    rows := ["780+31"] },
  { names := ["thai"]
    rows := ["e01+39 5+1b"] },
  { names := ["tibt", "tibetan"]
    rows := ["f00+47 1+23 4+26 1+23 1+e 1+6 4+1"] },
  { names := ["tirh", "tirhuta"]
    rows := ["11480+47 8+9"] },
  { names := ["tnsa", "tangsa"]
    rows := ["16a70+4e 1+9"] },
  { names := ["todr", "todhri"]
    rows := ["105c0+33"] },
  { names := ["tols", "tolongsiki"]
    rows := ["11db0+2b 4+9"] },
  { names := ["toto"]
    rows := ["1e290+1e"] },
  { names := ["tutg", "tulutigalari"]
    rows := ["11380+9 1 2 1+25 1+9 1 2 1+3 1+9 1+1 8+1"] },
  { names := ["ugar", "ugaritic"]
    rows := ["10380+1d 1"] },
  { names := ["vaii", "vai"]
    rows := ["a500+12b"] },
  { names := ["vith", "vithkuqi"]
    rows := ["10570+a 1+e 1+6 1+1 1+a 1+e 1+6 1+1"] },
  { names := ["wara", "warangciti"]
    rows := ["118a0+52 c"] },
  { names := ["wcho", "wancho"]
    rows := ["1e2c0+39 5"] },
  { names := ["xpeo", "oldpersian"]
    rows := ["103a0+23 4+d"] },
  { names := ["xsux", "cuneiform"]
    rows := ["12000+399 66+6e 1+4 b+c3"] },
  { names := ["yezi", "yezidi"]
    rows := ["10e80+29 1+2 2+1"] },
  { names := ["yiii", "yi"]
    rows := ["a000+48c 3+36"] },
  { names := ["zanb", "zanabazarsquare"]
    rows := ["11a00+47"] },
  { names := ["zinh", "inherited", "qaai"]
    rows := [
      "300+6f 115+1 1c4+a 1a 2e0+3 115b+2d 2+b 1e4+2 1+c 1+6 4 6 3+1 c6+3f 20c+1 c2+20 f39+3",
      "6b+1 cd65+f 10+d 3cf e2 105a bbc4+2d 2+16 220+2 11+7 2+6 1e+3 c2f52+ef"] },
  { names := ["zyyy", "common"]
    rows := [
      "0+40 1a+5 1a+2e 1+e 1+4 17 1f 1c1+26 5+4 2+13 74 9 6 1 27d 6 e 3 20 9c 204 81+1 4d9",
      "195+3 122 5ef+2 47+1 cb+1 1 4cd d 7+3 1+5 1+2 2 305+b 2+56 1+a 3+a 1+e 11+21 3e+25 1+2",
      "2+5 1+1a 1+10 29+2 4+299 16+a 15+39f 100+273 2+89 200+5d 192+14 1 1+18 f+7 4+3 5b+1 3",
      "5a+1 93+f 20+25 9 30+3f 1f+50 2f 58+a7 19c0+3f 5900+21 66+2 a5+9 f4 a0 18b e+1 51d2+1",
      "d0+9 16+22 1+12 1+3 93 1+1f 1a+5 1a+a a 2d+1 40+6 1+6 a+4 102+2 4+2c 3+8 50+c 33+2c",
      "e4+1a b9a4+3 f5c+fc 3+1b3 6+16 f+10 5f+73 3c+f5 a+26 2+3d 3+10 8+1 7+1d 4+3c d5+13 c+13",
      "c+56 9+18 87+54 1+46 1+1 2 2+1 2+3 1+b 1 1+6 1+40 1+3 2+7 1+6 1+1b 1+3 1+4 1 3+6 1+153",
      "2+123 2+31 1471+43 4c+3c 2c2+2b 4+63 c+e 2+e 1+e 1+24 a+ad 38+19 1+1 d+2b 4+8 7+1 e+5",
      "9a+3d8 3+10 3+c 3+d9 6+b 4 f+b 4+37 8+9 6+27 8+1d 2+b 4+1 e+8 27+157 8+d 2+c 3+a 3+38 1",
      "4+f 2+b 4+9 7+92 1+66 c0406 1e+5f"] }
]

/-- The characters that are used in a script, where these are not the same. -/
def sharedScripts : List Table := [
  { names := ["adlm", "adlam"]
    rows := ["61f 20 1a0e df1 1babe+4b 4+9 4+1"] },
  { names := ["aghb", "caucasianalbanian"]
    rows := ["304 2c 2c 101d1+33 b"] },
  { names := ["arab", "arabic"]
    rows := [
      "600+4 1+d6 1+21 50+2f f0+21 5+4a 1+1c 174f df1 cd0e+27f 20+f 70+4 1+86 3e3+1b b64+1e",
      "43+5 8+8 21+5 df00+3 1+1a 1+1 1 2 1+9 1+3 1 1 6 4 1 1 1+2 1+1 1 2 1 1 1 1 1+1 1 2+3 1+6",
      "1+3 1+3 1 1+9 1+10 5+2 1+4 1+10 34+1"] },
  { names := ["armn", "armenian"]
    rows := ["308 228+25 2+31 2+2 f583+4"] },
  { names := ["avst", "avestan"]
    rows := ["b7 2d78+1 dcce+35 3+6"] },
  { names := ["beng", "bengali"]
    rows := [
      "2bc 694+1 11+1 1a+3 1+7 2+1 2+15 1+6 1 3+3 2+8 2+1 2+3 8 4+1 1+4 2+18 12d1 1 2+1 1 8 8",
      "2 4 2+2 8bf9"] },
  { names := ["bopo", "bopomofo"]
    rows := ["2c7 1+2 d 10+1 2d15+2 4+9 1+c a+3 2 6 c3 9+2a 70+1f cc85+1 11a+4"] },
  { names := ["bugi", "buginese"]
    rows := ["1a00+1b 2+1 8faf"] },
  { names := ["buhd", "buhid"]
    rows := ["1735+1 9+13"] },
  { names := ["cakm", "chakma"]
    rows := ["9e6+9 650+9 100b6+34 1+11"] },
  { names := ["cari", "carian"]
    rows := ["b7 1fa2 2 dd3 d46e+30"] },
  { names := ["cher", "cherokee"]
    rows := ["300+2 1 6+1 16+1 b+1 106e+55 2+5 9772+4f"] },
  { names := ["copt", "coptic", "qaac"]
    rows := ["b7 248 3+1 1 6c+1 6c+d 2890+73 5+6 117 d4c8+1b"] },
  { names := ["cpmn", "cyprominoan"]
    rows := ["10100+1 2e8e+62"] },
  { names := ["cprt", "cypriot"]
    rows := ["10100+2 4+2c 3+8 6c0+5 2 1+2b 1+1 3 2"] },
  { names := ["cyrl", "cyrillic"]
    rows := ["2bc 43+2 1 1 1 2 5 ee+12f 1750+a a0 4c 7f fe7+1f 43 77fc+5f 578e+1 e200+3d 21"] },
  { names := ["deva", "devanagari"]
    rows := ["2bc 643+52 2+2a 1350+26 1+1 3f6 873f+9 a6+1f 7200+9"] },
  { names := ["dogr", "dogra"]
    rows := ["964+b 9ec0+9 6fc6+3b"] },
  { names := ["dupl", "duployan"]
    rows := ["b7 24f+1 1 18+1 2b17 18dc3+6a 5+c 3+8 7+9 2+7"] },
  { names := ["elba", "elbasan"]
    rows := ["b7 24d 101fa+27"] },
  { names := ["ethi", "ethiopic"]
    rows := [
      "30e ef1+48 1+3 2+6 1 1+3 2+28 1+3 2+20 1+3 2+6 1 1+3 2+e 1+38 1+3 2+42 2+1f 3+19",
      "19e6+16 9+6 1+6 1+6 1+6 1+6 1+6 1+6 1+6 7d22+5 2+5 2+5 9+6 1+6 13cb1+6 1+3 1+1 1+e"] },
  { names := ["gara", "garay"]
    rows := ["60c e 3 10720+25 3+1c 8+1"] },
  { names := ["geor", "georgian"]
    rows := ["b7 4d1 b16+25 1 5 2+2f b90+2a 2+2 39a ca5+25 1 5 103"] },
  { names := ["glag", "glagolitic"]
    rows := ["b7 24b 1 17e 2 101 b71 f5e ba5+5f 1e3 782b 13990+6 1+10 2+6 1+1 1+4"] },
  { names := ["gong", "gunjalagondi"]
    rows := ["b7 8ac+1 113fa+5 1+1 1+24 1+1 1+5 7+9"] },
  { names := ["gonm", "masaramgondi"]
    rows := ["964+1 1139a+6 1+1 1+2b 3 1+1 1+8 8+9"] },
  { names := ["goth", "gothic"]
    rows := ["b7 24c+1 2 28 fffe+1a"] },
  { names := ["gran", "grantha"]
    rows := [
      "951+1 11+1 280+d 10dc 1+1 1e+2 3+1 3f6 f20f+3 1+7 2+1 2+15 1+6 1+1 1+4 1+9 2+1 2+2 2 6",
      "5+6 2+6 3+4 c5b+1 1"] },
  { names := ["grek", "greek"]
    rows := [
      "b7 248+1 2 1 1 a 2e 2 2a+7 2+3 1 4 1 1+2 1 1+13 1+3e e+f 1926+4 32+4 4+4 54+2 13e+15",
      "2+5 2+25 2+5 2+7 1 1 1 1+1e 2+34 1+e 1+d 2+5 1+12 2+2 1+8 5e c8 8a3e 55da+4e 11 d05f+45"] },
  { names := ["gujr", "gujarati"]
    rows := ["951+1 11+1 11b+2 1+8 1+2 1+15 1+6 1+1 1+4 2+9 1+2 1+2 2 f+3 2+b 7+6 9d30+9"] },
  { names := ["gukh", "gurungkhema"]
    rows := ["965 1579a+39"] },
  { names := ["guru", "gurmukhi"]
    rows := ["951+1 11+1 9b+2 1+5 4+1 2+15 1+6 1+1 1+1 1+1 2 1+4 4+1 2+2 3 7+3 1 7+10 9db9+9"] },
  { names := ["hang", "hangul"]
    rows := [
      "1100+ff 1e01+2 4+9 1+c e+2 6 c3 35+5d 71+1e 41+1e 76e1+1c 283+2ba3 c+16 4+30 2649+1",
      "11a+4 3a+1e 3+5 2+5 2+5 2+2"] },
  { names := ["hani", "han"]
    rows := [
      "b7 2dc8+19 1+58 c+d5 1a+f 1+2 1+c 1+c 1+c 2 6+8 bb 94+f 20+25 9 30+27 38+30 f+b 33",
      "58+18 a+4 60+1e 1+19bf 40+51ff 700+7 51f8+16d 2+69 36b+1 11a+4 707c+1 c+6 6369+11",
      "1ede+1 dae+a6df 20+111d 2+168d 2+1d30 f+26d 9a2+21d 5e2+134a 5+2129"] },
  { names := ["hano", "hanunoo"]
    rows := ["1720+16"] },
  { names := ["hebr", "hebrew"]
    rows := ["307+1 288+36 8+1a 4+5 f528+19 1+4 1 1+1 1+1 1+9"] },
  { names := ["hira", "hiragana"]
    rows := [
      "3001+2 4+9 1+c 10+5 1 4+1 3+55 2+7 5a+1 cd48+1 11a+4 a 2d+1 b061+11e 12 1d+2 40ad"] },
  { names := ["hung", "oldhungarian"]
    rows := ["205a 2 dd3 f de3e+32 d+32 7+5"] },
  { names := ["java", "javanese"]
    rows := ["a980+4d 1+a 4+1"] },
  { names := ["kali", "kayahli"]
    rows := ["a900+2f"] },
  { names := ["kana", "katakana"]
    rows := [
      "305 1d 2cdd+2 4+9 1+c 10+5 1 4+1 5b+3 3+5f f0+f d0+2e 1+57 caed+1 11a+3e b050+3 1+6 1+1",
      "1 11f+2 32 e+3"] },
  { names := ["khoj", "khojki"]
    rows := ["ae6+9 9d40+9 69c6+11 1+2e"] },
  { names := ["knda", "kannada"]
    rows := [
      "951+1 11+1 31a+c 1+2 1+16 1+9 1+4 2+8 1+2 1+3 7+1 5+2 1+3 2+9 1+2 fdc 1+1 6 17 1 8b3b+5"] },
  { names := ["kthi", "kaithi"]
    rows := ["966+9 24c1 79fe+9 6846+42 a"] },
  { names := ["latn", "latin"]
    rows := [
      "41+19 6+19 2f c 2 5+16 1+1e 1+1c0 3 a 1+2 1 9 1 6+4 1b+e 1+1 1 f+2 7+1 1+1 26 5 4+c",
      "115+1 4ca+1 7a8 c04+25 6+30 5+3 5+c 1+45 39 7+ff 12f 41 d 10+c 53 39+1 6 1b 11+28",
      "ad7+1f 197 78e8+7 1a+65 3+51 14+e 12e 201+2a 1+8 1+3 4f96+6 41a+19 6+19 825+5 1+29 1+8",
      "d745+1e 6+5"] },
  { names := ["limb", "limbu"]
    rows := ["965 f9a+1e 1+b 4+b 4 3+b"] },
  { names := ["lina", "lineara"]
    rows := ["10107+2c 4cc+136 9+15 a+7"] },
  { names := ["linb", "linearb"]
    rows := ["10000+b 1+19 1+12 1+1 1+e 2+d 22+7a 5+2 4+2c 3+8"] },
  { names := ["lisu"]
    rows := ["2bc 10 2d3c+1 74c4+2f 7ab0"] },
  { names := ["lyci", "lycian"]
    rows := ["205a e225+1c"] },
  { names := ["lydi", "lydian"]
    rows := ["b7 2d79 daee+19 5"] },
  { names := ["mahj", "mahajani"]
    rows := ["b7 8ac+b 9ec0+9 6916+26"] },
  { names := ["mand", "mandaic"]
    rows := ["640 1ff+1b 2"] },
  { names := ["mani", "manichaean"]
    rows := ["640 1047f+26 4+b"] },
  { names := ["mero", "meroitichieroglyphs"]
    rows := ["205d e922+1f"] },
  { names := ["mlym", "malayalam"]
    rows := ["951+1 11+1 39a+c 1+2 1+32 1+2 1+5 4+f 2+19 f5a 17 8b3d+2"] },
  { names := ["modi"]
    rows := ["a830+9 6dc6+44 b+9"] },
  { names := ["mong", "mongolian"]
    rows := ["1800+19 6+58 7+2a 784 fd1+1 5+3 e654+c"] },
  { names := ["mult", "multani"]
    rows := ["a66+9 10810+6 1 1+3 1+e 1+a"] },
  { names := ["mymr", "myanmar"]
    rows := ["1000+9f 988e b1+1e 61+1f 6c50+13"] },
  { names := ["nand", "nandinagari"]
    rows := ["951 12+1 380+9 ff9 8 7 8b35+5 716a+7 2+2d 2+a"] },
  { names := ["newa"]
    rows := ["951+1 1382 1+1 9 6 1 1 f712+5b 1+4"] },
  { names := ["nkoo", "nko"]
    rows := ["60c e 3 1a0+3a 2+2 f53e+1"] },
  { names := ["onao", "olonal"]
    rows := ["964+1 1dc6a+2a 4"] },
  { names := ["orkh", "oldturkic"]
    rows := ["205a dd5 ddcf+48"] },
  { names := ["orya", "oriya"]
    rows := ["951+1 11+1 19b+2 1+7 2+1 2+15 1+6 1+1 1+4 2+8 2+1 2+2 7+2 4+1 1+4 2+11 1162 17"] },
  { names := ["osge", "osage"]
    rows := ["301 2 6 4c 10157+23 4+23"] },
  { names := ["ougr", "olduyghur"]
    rows := ["640 104b1 47d+19"] },
  { names := ["perm", "oldpermic"]
    rows := ["b7 248 5+2 a 16f fecc+2a"] },
  { names := ["phag", "phagspa"]
    rows := ["1802+1 1 829 fd2 783d+37"] },
  { names := ["phlp", "psalterpahlavi"]
    rows := ["640 1053f+11 7+3 c+6"] },
  { names := ["rohg", "hanifirohingya"]
    rows := ["60c e 3 20 93 1062b+27 8+9"] },
  { names := ["runr", "runic"]
    rows := ["16a0+58"] },
  { names := ["samr", "samaritan"]
    rows := ["800+2d 2+e 25f2"] },
  { names := ["shaw", "shavian"]
    rows := ["b7 10398+2f"] },
  { names := ["shrd", "sharada"]
    rows := ["951 1385 1 2+1 2 9 2 8b42+5 2 6947+5f 980+7"] },
  { names := ["sind", "khudawadi"]
    rows := ["964+1 9eca+9 6a76+3a 5+9"] },
  { names := ["sinh", "sinhala"]
    rows := ["964+1 41b+2 1+11 3+17 1+8 1 2+6 3 4+5 1 1+7 6+9 2+2 efd f4ee+13"] },
  { names := ["sogd", "sogdian"]
    rows := ["640 108ef+29"] },
  { names := ["sunu", "sunuwar"]
    rows := ["300+1 1 9 2 1c 3 1188e+21 e+9"] },
  { names := ["sylo", "sylotinagri"]
    rows := ["964+1 80+9 9e10+2c"] },
  { names := ["syrc", "syriac"]
    rows := ["303+1 2+1 1 18+2 7+1 1+1 2da e+1 2 20 a+a 1a 8f+d 1+3b 2+2 110+a 158d 1"] },
  { names := ["tagb", "tagbanwa"]
    rows := ["1735+1 29+c 1+2 1+1"] },
  { names := ["takr", "takri"]
    rows := ["964+1 9eca+9 6e46+39 6+9"] },
  { names := ["tale", "taile"]
    rows := ["300+1 5+1 3 d33+9 906+1d 2+4"] },
  { names := ["taml", "tamil"]
    rows := [
      "951+1 11+1 21c+1 1+5 3+2 1+3 3+1 1 1+1 3+1 3+2 3+b 4+4 3+2 1+3 2 6 e+14 10df 8c18 6a0d",
      "1 37+1 c83+31 d"] },
  { names := ["tang", "tangut"]
    rows := ["2ff0+f 1ef 13df0 1f+1aff 200+1e 61+72"] },
  { names := ["telu", "telugu"]
    rows := ["951+1 11+1 29a+c 1+2 1+16 1+f 2+8 1+2 1+3 7+1 1+2 1+1 2+3 2+9 7+8 1055+1 1 1 17"] },
  { names := ["tfng", "tifinagh"]
    rows := ["302 1 1+3 19 2a0c+37 7+1 e"] },
  { names := ["tglg", "tagalog"]
    rows := ["1700+15 9 15+1"] },
  { names := ["thaa", "thaana"]
    rows := ["60c e+1 2 40+9 116+31 f640 a"] },
  { names := ["thai"]
    rows := ["2bc 1a 2b 2d acf+39 5+1b"] },
  { names := ["tibt", "tibetan"]
    rows := ["f00+47 1+23 4+26 1+23 1+e 1+6 4+1 202d+3"] },
  { names := ["tirh", "tirhuta"]
    rows := ["951+1 11+1 136f c f 8b3d+9 6c46+47 8+9"] },
  { names := ["todr", "todhri"]
    rows := ["301 2 2 9 1 4a 10261+33"] },
  { names := ["toto"]
    rows := ["2bc 1dfd3+1e"] },
  { names := ["tutg", "tulutigalari"]
    rows := ["ce6+9 1002 1 8b3b+5 bb 6a8e+9 1 2 1+25 1+9 1 2 1+3 1+9 1+1 8+1"] },
  { names := ["yezi", "yezidi"]
    rows := ["60c e 3 40+9 10816+29 1+2 2+1"] },
  { names := ["yiii", "yi"]
    rows := ["3001+1 5+9 2+7 df 6f04+48c 3+36 5a9a+4"] },
  { names := ["zinh", "inherited", "qaai"]
    rows := [
      "30f 2 1+e 3+6 2 2+f 1+1 1+11 1+4 1+3 5f0+1 115b+2d 2+b 2d6+35 1 1+4 20c+1 c2+1f dd10+f",
      "10+d 3cf cd02+2d 2+16 220+2 11+7 2+6 1e+3 c2f52+ef"] },
  { names := ["zyyy", "common"]
    rows := [
      "0+40 1a+5 1a+2e 1+b 1+1 1+4 17 1f 1c1+2 1+9 1 3 1+8 1 1+5 5+4 2+13 7e 6 1 27d d7 204",
      "55c 195+3 1027+b 2+20 1+1e 1+9 1+1 1+6 1+a 3+a 1+e 11+21 3e+25 1+2 2+5 1+1a 1+10 29+2",
      "4+299 16+a 15+39f 100+273 2+89 200+16 1+17 2+9 1+3 1 1+19 1a2 3 d d 15 211+17 1f 31+e",
      "c+3 a1+9 5+5f 1f 19c0+3f 5908+19 66+2 3d0 e+1 52a4+9 16+14 2+b 1+12 1+3 93 1+1f 1a+5",
      "1a+5 7f+6 1+6 a+4 192+c 33+2c ca03+fc 3+1b3 6+16 f+10 5f+73 3c+f5 a+26 2+3d 3+10 8+1",
      "7+1d 4+3c d5+13 c+13 c+56 1b+6 87+54 1+46 1+1 2 2+1 2+3 1+b 1 1+6 1+40 1+3 2+7 1+6 1+1b",
      "1+3 1+4 1 3+6 1+153 2+123 2+31 1471+43 4c+3c 2c2+2b 4+63 c+e 2+e 1+e 1+24 a+ad 38+19",
      "1+1 d+2b 4+8 17+5 9a+3d8 3+10 3+c 3+d9 6+b 4 f+b 4+37 8+9 6+27 8+1d 2+b 4+1 e+8 27+157",
      "8+d 2+c 3+a 3+38 1 4+f 2+b 4+9 7+92 1+66 c0406 1e+5f"] }
]

end Lexical.Pattern.Property
