import SiteTech.Text.Ranges

namespace SiteTech.Text

/-- The scripts. -/
def scripts : List (List String × Ranges) :=
  [(["adlm", "adlam"], Ranges.unpack
    "1e900-4b 5-9 5-1"),
   (["aghb", "caucasianalbanian"], Ranges.unpack
    "10530-33 c"),
   (["ahom"], Ranges.unpack
    "11700-1a 3-e 5-16"),
   (["arab", "arabic"], Ranges.unpack
    ("600-4 2-5 2-d 2-2 2-1f 2-9 c-19 2-6b 2-21 51-2f f1-1e 2-1 7-49 2-1c f251-72 11-16a 3-4f 3-35 " ++
    "8 21-f 71-4 2-86 f64-1e 7f-2 df01-3 2-1a 2-1 2 3 2-9 2-3 2 2 7 5 2 2 2-2 2-1 2 3 2 2 2 2 2-1 " ++
    "2 3-3 2-6 2-3 2-3 2 2-9 2-10 6-2 2-4 2-10 35-1")),
   (["armi", "imperialaramaic"], Ranges.unpack
    "10840-15 2-8"),
   (["armn", "armenian"], Ranges.unpack
    "531-25 3-31 3-2 f584-4"),
   (["avst", "avestan"], Ranges.unpack
    "10b00-35 4-6"),
   (["bali", "balinese"], Ranges.unpack
    "1b00-4c 4-2e"),
   (["bamu", "bamum"], Ranges.unpack
    "a6a0-57 c109-238"),
   (["bass", "bassavah"], Ranges.unpack
    "16ad0-1d 3-5"),
   (["batk", "batak"], Ranges.unpack
    "1bc0-33 9-3"),
   (["beng", "bengali"], Ranges.unpack
    "980-3 2-7 3-1 3-15 2-6 2 4-3 3-8 3-1 3-3 9 5-1 2-4 3-18"),
   (["bhks", "bhaiksuki"], Ranges.unpack
    "11c00-8 2-2c 2-d b-1c"),
   (["bopo", "bopomofo"], Ranges.unpack
    "2ea-1 2e1a-2a 71-1f"),
   (["brah", "brahmi"], Ranges.unpack
    "11000-4d 5-23 a"),
   (["brai", "braille"], Ranges.unpack
    "2800-ff"),
   (["bugi", "buginese"], Ranges.unpack
    "1a00-1b 3-1"),
   (["buhd", "buhid"], Ranges.unpack
    "1740-13"),
   (["cakm", "chakma"], Ranges.unpack
    "11100-34 2-11"),
   (["cans", "canadianaboriginal"], Ranges.unpack
    "1400-27f 231-45 101bb-f"),
   (["cari", "carian"], Ranges.unpack
    "102a0-30"),
   (["cham"], Ranges.unpack
    "aa00-36 a-d 3-9 3-3"),
   (["cher", "cherokee"], Ranges.unpack
    "13a0-55 3-5 9773-4f"),
   (["chrs", "chorasmian"], Ranges.unpack
    "10fb0-1b"),
   (["copt", "coptic", "qaac"], Ranges.unpack
    "3e2-d 2891-73 6-6"),
   (["cpmn", "cyprominoan"], Ranges.unpack
    "12f90-62"),
   (["cprt", "cypriot"], Ranges.unpack
    "10800-5 3 2-2b 2-1 4 3"),
   (["cyrl", "cyrillic"], Ranges.unpack
    "400-84 3-a8 1751-8 a3 4d 1068-1f 7841-5f 578f-1 e201-3d 22"),
   (["deva", "devanagari"], Ranges.unpack
    "900-50 5-e 3-19 9f61-1f 7201-9"),
   (["diak", "divesakuru"], Ranges.unpack
    "11900-6 3 3-7 2-1 2-1d 2-1 3-b a-9"),
   (["dogr", "dogra"], Ranges.unpack
    "11800-3b"),
   (["dsrt", "deseret"], Ranges.unpack
    "10400-4f"),
   (["dupl", "duployan"], Ranges.unpack
    "1bc00-6a 6-c 4-8 8-9 3-3"),
   (["egyp", "egyptianhieroglyphs"], Ranges.unpack
    "13000-455"),
   (["elba", "elbasan"], Ranges.unpack
    "10500-27"),
   (["elym", "elymaic"], Ranges.unpack
    "10fe0-16"),
   (["ethi", "ethiopic"], Ranges.unpack
    ("1200-48 2-3 3-6 2 2-3 3-28 2-3 3-20 2-3 3-6 2 2-3 3-e 2-38 2-3 3-42 3-1f 4-19 19e7-16 a-6 " ++
    "2-6 2-6 2-6 2-6 2-6 2-6 2-6 7d23-5 3-5 3-5 a-6 2-6 13cb2-6 2-3 2-1 2-e")),
   (["geor", "georgian"], Ranges.unpack
    "10a0-25 2 6 3-2a 2-3 b91-2a 3-2 1041-25 2 6"),
   (["glag", "glagolitic"], Ranges.unpack
    "2c00-5f 1b3a1-6 2-10 3-6 2-1 2-4"),
   (["gong", "gunjalagondi"], Ranges.unpack
    "11d60-5 2-1 2-24 2-1 2-5 8-9"),
   (["gonm", "masaramgondi"], Ranges.unpack
    "11d00-6 2-1 2-2b 4 2-1 2-8 9-9"),
   (["goth", "gothic"], Ranges.unpack
    "10330-1a"),
   (["gran", "grantha"], Ranges.unpack
    "11300-3 2-7 3-1 3-15 2-6 2-1 2-4 3-8 3-1 3-2 3 7 6-6 3-6 4-4"),
   (["grek", "greek"], Ranges.unpack
    ("370-3 2-2 3-3 2 5 2 2-2 2 2-13 2-3e f-f 1927-4 33-4 5-4 55 141-15 3-5 3-25 3-5 3-7 2 2 2 " ++
    "2-1e 3-34 2-e 2-d 3-5 2-12 3-2 2-8 128 8a3f 55db-4e 12 d060-45")),
   (["gujr", "gujarati"], Ranges.unpack
    "a81-2 2-8 2-2 2-15 2-6 2-1 2-4 3-9 2-2 2-2 3 10-3 3-b 8-6"),
   (["guru", "gurmukhi"], Ranges.unpack
    "a01-2 2-5 5-1 3-15 2-6 2-1 2-1 2-1 3 2-4 5-1 3-2 4 8-3 2 8-10"),
   (["hang", "hangul"], Ranges.unpack
    "1100-ff 1e2f-1 102-5d 72-1e 42-1e 76e2-1c 284-2ba3 d-16 5-30 27a5-1e 4-5 3-5 3-5 3-2"),
   (["hani", "han"], Ranges.unpack
    ("2e80-19 2-58 d-d5 30 2 1a-8 f-3 3c5-19bf 41-51ff 5901-16d 3-69 7509-1 d-1 900f-a6df 21-1039 " ++
    "7-dd 3-1681 f-1d30 c20-21d 5e3-134a 6-105f")),
   (["hano", "hanunoo"], Ranges.unpack
    "1720-14"),
   (["hatr", "hatran"], Ranges.unpack
    "108e0-12 2-1 6-4"),
   (["hebr", "hebrew"], Ranges.unpack
    "591-36 9-1a 5-5 f529-19 2-4 2 2-1 2-1 2-9"),
   (["hira", "hiragana"], Ranges.unpack
    "3041-55 7-2 17f62-11e 13 1e-2 40ae"),
   (["hluw", "anatolianhieroglyphs"], Ranges.unpack
    "14400-246"),
   (["hmng", "pahawhhmong"], Ranges.unpack
    "16b00-45 b-9 2-6 2-14 6-12"),
   (["hmnp", "nyiakengpuachuehmong"], Ranges.unpack
    "1e100-2c 4-d 3-9 5-1"),
   (["hung", "oldhungarian"], Ranges.unpack
    "10c80-32 e-32 8-5"),
   (["ital", "olditalic"], Ranges.unpack
    "10300-23 a-2"),
   (["java", "javanese"], Ranges.unpack
    "a980-4d 3-9 5-1"),
   (["kali", "kayahli"], Ranges.unpack
    "a900-2d 2"),
   (["kana", "katakana"], Ranges.unpack
    "30a1-59 3-2 f1-f d1-2e 2-57 cc0f-9 2-2c b053-3 2-6 2-1 2 120-2 33 f-3"),
   (["kawi"], Ranges.unpack
    "11f00-10 2-28 4-1b"),
   (["khar", "kharoshthi"], Ranges.unpack
    "10a00-3 2-1 6-7 2-2 2-1c 3-2 5-9 8-8"),
   (["khmr", "khmer"], Ranges.unpack
    "1780-5d 3-9 7-9 1e7-1f"),
   (["khoj", "khojki"], Ranges.unpack
    "11200-11 2-2e"),
   (["kits", "khitansmallscript"], Ranges.unpack
    "16fe4 1b1c-1d5"),
   (["knda", "kannada"], Ranges.unpack
    "c80-c 2-2 2-16 2-9 2-4 3-8 2-2 2-3 8-1 7-1 2-3 3-9 2-2"),
   (["kthi", "kaithi"], Ranges.unpack
    "11080-42 b"),
   (["lana", "taitham"], Ranges.unpack
    "1a20-3e 2-1c 3-a 7-9 7-d"),
   (["laoo", "lao"], Ranges.unpack
    "e81-1 2 2-4 2-17 2 2-16 3-4 2 2-6 2-9 3-3"),
   (["latn", "latin"], Ranges.unpack
    ("41-19 7-19 30 10 6-16 2-1e 2-1c0 28-4 1a1c-25 7-30 6-3 6-c 2-45 42-ff 172 e 11-c 8e-1 7 1c " ++
    "12-28 ad8-1f 7aa3-65 4-3f 6-1 2 2-4 19-d 331-2a 2-8 2-3 4f97-6 41b-19 7-19 826-5 2-29 2-8 " ++
    "d746-1e 7-5")),
   (["lepc", "lepcha"], Ranges.unpack
    "1c00-37 4-e 4-2"),
   (["limb", "limbu"], Ranges.unpack
    "1900-1e 2-b 5-b 5 4-b"),
   (["lina", "lineara"], Ranges.unpack
    "10600-136 a-15 b-7"),
   (["linb", "linearb"], Ranges.unpack
    "10000-b 2-19 2-12 2-1 2-e 3-d 23-7a"),
   (["lisu"], Ranges.unpack
    "a4d0-2f 7ab1"),
   (["lyci", "lycian"], Ranges.unpack
    "10280-1c"),
   (["lydi", "lydian"], Ranges.unpack
    "10920-19 6"),
   (["mahj", "mahajani"], Ranges.unpack
    "11150-26"),
   (["maka", "makasar"], Ranges.unpack
    "11ee0-18"),
   (["mand", "mandaic"], Ranges.unpack
    "840-1b 3"),
   (["mani", "manichaean"], Ranges.unpack
    "10ac0-26 5-b"),
   (["marc", "marchen"], Ranges.unpack
    "11c70-1f 3-15 2-d"),
   (["medf", "medefaidrin"], Ranges.unpack
    "16e40-5a"),
   (["mend", "mendekikakui"], Ranges.unpack
    "1e800-c4 3-f"),
   (["merc", "meroiticcursive"], Ranges.unpack
    "109a0-17 5-13 3-2d"),
   (["mero", "meroitichieroglyphs"], Ranges.unpack
    "10980-1f"),
   (["mlym", "malayalam"], Ranges.unpack
    "d00-c 2-2 2-32 2-2 2-5 5-f 3-19"),
   (["modi"], Ranges.unpack
    "11600-44 c-9"),
   (["mong", "mongolian"], Ranges.unpack
    "1800-1 3 2-13 7-58 8-2a fdb6-c"),
   (["mroo", "mro"], Ranges.unpack
    "16a40-1e 2-9 5-1"),
   (["mtei", "meeteimayek"], Ranges.unpack
    "aae0-16 ca-2d 3-9"),
   (["mult", "multani"], Ranges.unpack
    "11280-6 2 2-3 2-e 2-a"),
   (["mymr", "myanmar"], Ranges.unpack
    "1000-9f 9941-1e 62-1f"),
   (["nagm", "nagmundari"], Ranges.unpack
    "1e4d0-29"),
   (["nand", "nandinagari"], Ranges.unpack
    "119a0-7 3-2d 3-a"),
   (["narb", "oldnortharabian"], Ranges.unpack
    "10a80-1f"),
   (["nbat", "nabataean"], Ranges.unpack
    "10880-1e 9-8"),
   (["newa"], Ranges.unpack
    "11400-5b 2-4"),
   (["nkoo", "nko"], Ranges.unpack
    "7c0-3a 3-2"),
   (["nshu", "nushu"], Ranges.unpack
    "16fe1 418f-18b"),
   (["ogam", "ogham"], Ranges.unpack
    "1680-1c"),
   (["olck", "olchiki"], Ranges.unpack
    "1c50-2f"),
   (["orkh", "oldturkic"], Ranges.unpack
    "10c00-48"),
   (["orya", "oriya"], Ranges.unpack
    "b01-2 2-7 3-1 3-15 2-6 2-1 2-4 3-8 3-1 3-2 8-2 5-1 2-4 3-11"),
   (["osge", "osage"], Ranges.unpack
    "104b0-23 5-23"),
   (["osma", "osmanya"], Ranges.unpack
    "10480-1d 3-9"),
   (["ougr", "olduyghur"], Ranges.unpack
    "10f70-19"),
   (["palm", "palmyrene"], Ranges.unpack
    "10860-1f"),
   (["pauc", "paucinhau"], Ranges.unpack
    "11ac0-38"),
   (["perm", "oldpermic"], Ranges.unpack
    "10350-2a"),
   (["phag", "phagspa"], Ranges.unpack
    "a840-37"),
   (["phli", "inscriptionalpahlavi"], Ranges.unpack
    "10b60-12 6-7"),
   (["phlp", "psalterpahlavi"], Ranges.unpack
    "10b80-11 8-3 d-6"),
   (["phnx", "phoenician"], Ranges.unpack
    "10900-1b 4"),
   (["plrd", "miao"], Ranges.unpack
    "16f00-4a 5-38 8-10"),
   (["prti", "inscriptionalparthian"], Ranges.unpack
    "10b40-15 3-7"),
   (["rjng", "rejang"], Ranges.unpack
    "a930-23 c"),
   (["rohg", "hanifirohingya"], Ranges.unpack
    "10d00-27 9-9"),
   (["runr", "runic"], Ranges.unpack
    "16a0-4a 4-a"),
   (["samr", "samaritan"], Ranges.unpack
    "800-2d 3-e"),
   (["sarb", "oldsoutharabian"], Ranges.unpack
    "10a60-1f"),
   (["saur", "saurashtra"], Ranges.unpack
    "a880-45 9-b"),
   (["sgnw", "signwriting"], Ranges.unpack
    "1d800-28b 10-4 2-e"),
   (["shaw", "shavian"], Ranges.unpack
    "10450-2f"),
   (["shrd", "sharada"], Ranges.unpack
    "11180-5f"),
   (["sidd", "siddham"], Ranges.unpack
    "11580-35 3-25"),
   (["sind", "khudawadi"], Ranges.unpack
    "112b0-3a 6-9"),
   (["sinh", "sinhala"], Ranges.unpack
    "d81-2 2-11 4-17 2-8 2 3-6 4 5-5 2 2-7 7-9 3-2 103ed-13"),
   (["sogd", "sogdian"], Ranges.unpack
    "10f30-29"),
   (["sogo", "oldsogdian"], Ranges.unpack
    "10f00-27"),
   (["sora", "sorasompeng"], Ranges.unpack
    "110d0-18 8-9"),
   (["soyo", "soyombo"], Ranges.unpack
    "11a50-52"),
   (["sund", "sundanese"], Ranges.unpack
    "1b80-3f 101-7"),
   (["sylo", "sylotinagri"], Ranges.unpack
    "a800-2c"),
   (["syrc", "syriac"], Ranges.unpack
    "700-d 2-3b 3-2 111-a"),
   (["tagb", "tagbanwa"], Ranges.unpack
    "1760-c 2-2 2-1"),
   (["takr", "takri"], Ranges.unpack
    "11680-39 7-9"),
   (["tale", "taile"], Ranges.unpack
    "1950-1d 3-4"),
   (["talu", "newtailue"], Ranges.unpack
    "1980-2b 5-19 7-a 4-1"),
   (["taml", "tamil"], Ranges.unpack
    "b82-1 2-5 4-2 2-3 4-1 2 2-1 4-1 4-2 4-b 5-4 4-2 2-3 3 7 f-14 113c6-31 e"),
   (["tang", "tangut"], Ranges.unpack
    "16fe0 20-17f7 9-2ff 201-8"),
   (["tavt", "taiviet"], Ranges.unpack
    "aa80-42 19-4"),
   (["telu", "telugu"], Ranges.unpack
    "c00-c 2-2 2-16 2-f 3-8 2-2 2-3 8-1 2-2 3 3-3 3-9 8-8"),
   (["tfng", "tifinagh"], Ranges.unpack
    "2d30-37 8-1 f"),
   (["tglg", "tagalog"], Ranges.unpack
    "1700-15 a"),
   (["thaa", "thaana"], Ranges.unpack
    "780-31"),
   (["thai"], Ranges.unpack
    "e01-39 6-1b"),
   (["tibt", "tibetan"], Ranges.unpack
    "f00-47 2-23 5-26 2-23 2-e 2-6 5-1"),
   (["tirh", "tirhuta"], Ranges.unpack
    "11480-47 9-9"),
   (["tnsa", "tangsa"], Ranges.unpack
    "16a70-4e 2-9"),
   (["toto"], Ranges.unpack
    "1e290-1e"),
   (["ugar", "ugaritic"], Ranges.unpack
    "10380-1d 2"),
   (["vaii", "vai"], Ranges.unpack
    "a500-12b"),
   (["vith", "vithkuqi"], Ranges.unpack
    "10570-a 2-e 2-6 2-1 2-a 2-e 2-6 2-1"),
   (["wara", "warangciti"], Ranges.unpack
    "118a0-52 d"),
   (["wcho", "wancho"], Ranges.unpack
    "1e2c0-39 6"),
   (["xpeo", "oldpersian"], Ranges.unpack
    "103a0-23 5-d"),
   (["xsux", "cuneiform"], Ranges.unpack
    "12000-399 67-6e 2-4 c-c3"),
   (["yezi", "yezidi"], Ranges.unpack
    "10e80-29 2-2 3-1"),
   (["yiii", "yi"], Ranges.unpack
    "a000-48c 4-36"),
   (["zanb", "zanabazarsquare"], Ranges.unpack
    "11a00-47"),
   (["zinh", "inherited", "qaai"], Ranges.unpack
    ("300-6f 116-1 1c5-a 1b 2e1-3 115c-1e 202-2 2-c 2-6 5 7 4-1 c7-3f 20d-1 c3-20 f3a-3 6c-1 " ++
    "cd66-f 11-d 3d0 e3 105b bbc5-2d 3-16 221-2 12-7 3-6 1f-3 c2f53-ef")),
   (["zyyy", "common"], Ranges.unpack
    ("0-40 1b-5 1b-2e 2-e 2-4 18 20 1c2-26 6-4 3-13 75 a 7 2 27e 7 f 4 21 9d 205 82-1 4da 196-3 " ++
    "123 5f0-2 48-1 cc-1 2 4ce e 8-3 2-5 2-2 3 306-b 3-56 2-a 4-a 2-e 12-20 40-25 2-2 3-5 2-1a " ++
    "2-10 2a-2 5-296 1a-a 16-39f 101-273 3-1f 2-68 201-5d 193-b 5-4 2 2-18 10-7 5-3 5c-1 4 5b-1 " ++
    "94-f 21-23 3d-3f 20-50 30 59-a7 19c1-3f 5901-21 67-2 a6-9 f5 a1 18c f-1 51d3-1 d1-9 17-22 " ++
    "2-12 2-3 94 2-1f 1b-5 1b-a b 2e-1 41-6 2-6 b-4 103-2 5-2c 4-8 51-c 34-2c e5-1a b9a5-3 " ++
    "12ad-73 3d-f5 b-26 3-3d 4-10 9-1 8-1d 5-3c d6-13 d-13 d-56 a-18 88-54 2-46 2-1 3 3-1 3-3 2-b " ++
    "2 2-6 2-40 2-3 3-7 2-6 2-1b 2-3 2-4 2 4-6 2-153 3-123 3-31 1472-43 4d-3c 2c3-2b 5-63 d-e 3-e " ++
    "2-e 2-24 b-ad 39-19 2-1 e-2b 5-8 8-1 f-5 9b-3d7 5-10 4-c 4-76 5-5e 7-b 5 10-b 5-37 9-9 7-27 " ++
    "9-1d 3-1 4f-153 d-d 3-c 4-8 8-2d 2-6 9-d 5-8 8-8 8-92 2-36 26-9 c0408 1f-5f")),
   (["zzzz", "unknown"], Ranges.unpack
    ("378-1 7-3 8 2 15 18e 27-1 33-1 4 38-7 1c-3 7-a 10f 3d-1 66-d 3c-1 32-1 10 1d-1 2 c-4 20 3-5 " ++
    "ed 9-1 3-1 17 8 2-2 5-1 a-1 3-1 5-7 2-3 3 6-1 1a-1 4 7-3 3-1 17 8 3 3 3-1 2 6-3 3-1 4-2 2-6 " ++
    "5 2-6 12-9 4 a 4 17 8 3 6-1 b 4 4-1 2-e 5-1 d-6 8 4 9-1 3-1 17 8 3 6-1 a-1 3-1 4-6 4-3 3 6-1 " ++
    "13-9 3 7-2 4 5-2 3 2 3-2 3-2 4-2 d-3 6-2 4 5-1 2-5 2-d 16-4 e 4 18 11-1 a 4 5-6 3 4-1 2-1 " ++
    "5-1 b-6 17 4 18 b 6-1 a 4 5-6 3-5 3 5-1 b 4-b e 4 34 4 7-3 11-1 1b 4 13-2 19 a 2-1 8-2 2-3 7 " ++
    "2 9-5 b-1 4-b 3b-3 1e-24 3 2 6 19 2 18-1 6 2 8 b-1 5-1f 49 25-3 28 25 10 e-24 c7 2-4 2-1 17a " ++
    "5-1 8 2 5-1 2a 5-1 22 5-1 8 2 5-1 10 3a 5-1 44-1 21-2 1b-5 57-1 7-1 29e-2 5a-6 17-8 19-8 " ++
    "15-b e 4 3-b 5f-1 b-5 b-5 1b-5 5a-6 2c-4 47-9 20 d-3 d-3 2-2 2b-1 6-a 2d-3 1b-5 c-2 3f-1 42 " ++
    "1e-1 c-5 b-5 f-1 20-30 4e-2 30 75-7 3d-2 10-2 3d-6 2c-1 c-7 2c-4 217-1 7-1 27-1 7-1 9 2 2 2 " ++
    "20-1 36 10 f-1 7 14-1 4 a 66 d-1 1c e-2 22-e 22-e 8d-3 298-18 c-14 715-1 21 15e-4 2e 2-4 2-1 " ++
    "39-6 3-d 19-8 8 8 8 8 8 8 8 8 7f-21 1b 5a-b d7-19 d-3 41 57-1 68-4 2c 5f 55-b 30 726e-2 38-8 " ++
    "15d-13 b9-7 cc-4 3 2 6-17 3c-2 b-5 39-7 47-7 d-5 75-a 1f-2 4f c-3 22 38-8 f-1 b-1 68-17 1d-9 " ++
    "7-1 7-1 7-8 8 8 3d-3 7f-1 b-5 2ba5-b 18-3 32-2103 16f-1 6b-25 8-b 6-4 1b 6 2 3 3 7e-f 1be-1 " ++
    "37-6 2-1f 2b-5 34 14 5-3 6 88-1 2 bf-2 7-1 7-1 7-1 4-2 8 8-9 6-1 d 1b 14 3 10-1 f-21 7c-4 " ++
    "4-3 2e-2 59 e-2 2-2e 2f-81 1e-2 32-e 1d-3 25-8 1f-4 2c-4 1f 26-3 f-29 9f-1 b-5 25-3 25-3 " ++
    "29-7 35-a d 10 8 3 c 10 8 3-42 138-8 17-9 9-17 7 2b a-44 7-1 2 2d 3-2 2-1 18 49-7 a-2f 14 " ++
    "3-4 22-2 1c-4 2-3f 39-3 15-1 33 3-4 9 4 1e-1 4-3 b-6 a-6 41-1f 28-3 d-8 37-2 1e-1 1c-4 1b-6 " ++
    "5-b 8-4f 4a-36 34-c 34-6 2f-7 b-125 20 2b 4-1 3-4a 2c-7 2b-15 1b-25 1d-13 18-8 4f-3 25-8 " ++
    "45-9 2-1 1a-6 b-5 36 13-7 28-8 61 15-a 13 30-3d 8 2 5 10 c-5 3c-4 b-5 5 9-1 3-1 17 8 3 6 b-1 " ++
    "3-1 4-1 2-5 2-4 8-1 8-2 6-8a 5d 6-1d 49-7 b-a5 37-1 27-21 46-a b-5 e-12 3b-5 b-35 1c-1 10-3 " ++
    "18-b8 3d-63 54-b 9-1 2-1 9 3 1f 3-1 d-8 b-45 9-1 2f-1 c-1a 49-7 54-c 4a-6 b-f5 a 2e f-9 1e-2 " ++
    "21-1 17 f-48 8 3 2d-2 2 3 a-7 b-5 7 3 26 3 7-6 b-135 1a-6 12 2a-2 1d-55 2-e 33-c 39c-65 70 " ++
    "6-a c5-a4b 64-c 457-fa9 248-21b8 23a-6 20 b-3 52 b-5 1f-1 7-9 47-9 b 8 16-4 14-2af 5c-64 " ++
    "4c-3 3a-6 12-3f 6-a 3-d 17f9-7 4d7-29 a-22e6 5 8 3 124-e 2-1c 4-1 2-d 5-7 18d-903 6c-4 e-2 " ++
    "a-6 b-1 9-125b 2f-1 18-8 75-3b f7-9 28-1 c3-14 47-79 15-b 15-b 58-8 1a-86 56 48 3-1 2-1 3-1 " ++
    "5 d 2 8 42 5-1 9 8 1d 5 6 2-2 8 155-1 125-1 2bf-e 6 10-44f 20-5 7-d4 8 12-1 8 3 6-4 3f-20 " ++
    "2-6f 2e-2 f-1 b-3 3-13f 20-10 3b-4 2-1cf 2b-2e5 8 5 3 10 c6-1 11-28 4d-3 b-3 3-310 45-4b " ++
    "3e-c1 5 1c 3 2-1 2 b 5 2 2-5 2-3 2 2 2 4 3 2-1 2 2 2 2 2 3 2-1 5 8 5 5 2 b 12-4 4 6 12-33 " ++
    "3-10d 2d-3 65-b 10-1 10 10 26-9 af-37 1e-c 2d-3 a-6 3-d 7-99 3d9-3 12-2 e-2 78-3 60-5 d-3 " ++
    "2-e d-3 39-7 b-5 29-7 1f-1 3-4d 155-b f-1 e-2 a-6 2f 8-7 f-3 a-6 a-6 94 38-24 b-405 a6e1-1f " ++
    "103b-5 df-1 1683-d 1d32-c1e 21f-5e1 134c-4 1061-adc50 2-1d 61-7f f1-2fe0f"))]

end SiteTech.Text
