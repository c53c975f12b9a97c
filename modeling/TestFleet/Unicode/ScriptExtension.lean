import TestFleet.Unicode.Ranges
/-!
# Script extensions

Characters that are used with other scripts than their own, with all the scripts they are used with.
Every other character is used with its own script alone.
-/
namespace TestFleet.Unicode

/-- Scripts, and the characters that are used with exactly these: names, then ranges. -/
def scriptExtensions : List (List String × List String) :=
  [(["Avst", "Cari", "Copt", "Dupl", "Elba", "Geor", "Glag", "Gong", "Goth", "Grek", "Hani",
      "Latn", "Lydi", "Mahj", "Perm", "Shaw"],
      ["B7 1"]),
    (["Beng", "Cyrl", "Deva", "Latn", "Lisu", "Thai", "Toto"],
      ["2BC 1"]),
    (["Bopo", "Latn"],
      ["2C7 1 1 3 D 1"]),
    (["Latn", "Lisu"],
      ["2CD 1"]),
    (["Latn", "Thai"],
      ["2D7 1"]),
    (["Cher", "Copt", "Cyrl", "Grek", "Latn", "Perm", "Sunu", "Tale"],
      ["300 1"]),
    (["Cher", "Cyrl", "Grek", "Latn", "Osge", "Sunu", "Tale", "Todr"],
      ["301 1"]),
    (["Cher", "Cyrl", "Latn", "Tfng"],
      ["302 1"]),
    (["Glag", "Latn", "Sunu", "Syrc", "Thai"],
      ["303 1"]),
    (["Aghb", "Cher", "Copt", "Cyrl", "Goth", "Grek", "Latn", "Osge", "Syrc", "Tfng", "Todr"],
      ["304 1"]),
    (["Copt", "Elba", "Glag", "Goth", "Kana", "Latn"],
      ["305 1"]),
    (["Cyrl", "Grek", "Latn", "Perm", "Tfng"],
      ["306 1"]),
    (["Copt", "Dupl", "Hebr", "Latn", "Perm", "Syrc", "Tale", "Tfng", "Todr"],
      ["307 1"]),
    (["Armn", "Cyrl", "Dupl", "Goth", "Grek", "Hebr", "Latn", "Perm", "Syrc", "Tale", "Tfng"],
      ["308 1"]),
    (["Latn", "Tfng"],
      ["309 1"]),
    (["Dupl", "Latn", "Syrc"],
      ["30A 1"]),
    (["Cher", "Cyrl", "Latn", "Osge"],
      ["30B 1"]),
    (["Cher", "Latn", "Tale"],
      ["30C 1"]),
    (["Latn", "Sunu"],
      ["30D 1 2 1"]),
    (["Ethi", "Latn"],
      ["30E 1"]),
    (["Cyrl", "Latn", "Todr"],
      ["311 1"]),
    (["Grek", "Latn", "Perm", "Todr"],
      ["313 1"]),
    (["Cher", "Dupl", "Kana", "Latn", "Syrc", "Tfng"],
      ["323 1"]),
    (["Cher", "Dupl", "Latn", "Syrc"],
      ["324 1"]),
    (["Latn", "Syrc"],
      ["325 1 8 1"]),
    (["Latn", "Sunu", "Syrc"],
      ["32D 1"]),
    (["Cher", "Latn", "Syrc"],
      ["330 1"]),
    (["Aghb", "Cher", "Goth", "Latn", "Sunu", "Syrc", "Thai"],
      ["331 1"]),
    (["Grek"],
      ["342 1 2 1 1A7A 2"]),
    (["Latn", "Osge"],
      ["358 1"]),
    (["Aghb", "Latn", "Todr"],
      ["35E 1"]),
    (["Latn"],
      ["363 D"]),
    (["Copt", "Grek"],
      ["374 2"]),
    (["Cyrl", "Perm"],
      ["483 1"]),
    (["Cyrl", "Glag"],
      ["484 1 2 1 29BB 1 782B 1"]),
    (["Cyrl", "Latn"],
      ["485 2"]),
    (["Armn", "Geor", "Glag"],
      ["589 1"]),
    (["Arab", "Gara", "Nkoo", "Rohg", "Syrc", "Thaa", "Yezi"],
      ["60C 1 E 1"]),
    (["Arab", "Syrc", "Thaa"],
      ["61C 1"]),
    (["Adlm", "Arab", "Gara", "Nkoo", "Rohg", "Syrc", "Thaa", "Yezi"],
      ["61F 1"]),
    (["Adlm", "Arab", "Mand", "Mani", "Ougr", "Phlp", "Rohg", "Sogd", "Syrc"],
      ["640 1"]),
    (["Arab", "Syrc"],
      ["64B B 1A 1"]),
    (["Arab", "Thaa", "Yezi"],
      ["660 A"]),
    (["Arab", "Rohg"],
      ["6D4 1"]),
    (["Beng", "Deva", "Gran", "Gujr", "Guru", "Knda", "Latn", "Mlym", "Nand", "Newa", "Orya",
      "Shrd", "Taml", "Telu", "Tirh"],
      ["951 1"]),
    (["Beng", "Deva", "Gran", "Gujr", "Guru", "Knda", "Latn", "Mlym", "Newa", "Orya", "Taml",
      "Telu", "Tirh"],
      ["952 1"]),
    (["Beng", "Deva", "Dogr", "Gong", "Gonm", "Gran", "Gujr", "Guru", "Knda", "Mahj", "Mlym",
      "Nand", "Onao", "Orya", "Sind", "Sinh", "Sylo", "Takr", "Taml", "Telu", "Tirh"],
      ["964 1"]),
    (["Beng", "Deva", "Dogr", "Gong", "Gonm", "Gran", "Gujr", "Gukh", "Guru", "Knda", "Limb",
      "Mahj", "Mlym", "Nand", "Onao", "Orya", "Sind", "Sinh", "Sylo", "Takr", "Taml", "Telu",
      "Tirh"],
      ["965 1"]),
    (["Deva", "Dogr", "Kthi", "Mahj"],
      ["966 A"]),
    (["Beng", "Cakm", "Sylo"],
      ["9E6 A"]),
    (["Guru", "Mult"],
      ["A66 A"]),
    (["Gujr", "Khoj"],
      ["AE6 A"]),
    (["Gran", "Taml"],
      ["BE6 E 1070D 1 1 1 37 2 C93 2 1 1"]),
    (["Knda", "Nand", "Tutg"],
      ["CE6 A"]),
    (["Cakm", "Mymr", "Tale"],
      ["1040 A"]),
    (["Geor", "Glag", "Latn"],
      ["10FB 1"]),
    (["Runr"],
      ["16EB 3"]),
    (["Buhd", "Hano", "Tagb", "Tglg"],
      ["1735 2"]),
    (["Mong", "Phag"],
      ["1802 2 1 1"]),
    (["Beng", "Deva", "Gran", "Knda"],
      ["1CD0 1 1 1"]),
    (["Deva"],
      ["1CD1 1 2 1 6 1 2 2 3 6 3 1 1 4"]),
    (["Deva", "Gran", "Knda"],
      ["1CD3 1"]),
    (["Beng", "Deva", "Newa", "Telu", "Tirh"],
      ["1CD5 1"]),
    (["Beng", "Deva", "Telu"],
      ["1CD6 1"]),
    (["Deva", "Newa", "Shrd"],
      ["1CD7 1"]),
    (["Beng", "Deva", "Newa", "Telu"],
      ["1CD8 1"]),
    (["Deva", "Shrd"],
      ["1CD9 1 2 2 2 1"]),
    (["Deva", "Knda", "Mlym", "Orya", "Taml", "Telu"],
      ["1CDA 1"]),
    (["Beng", "Deva"],
      ["1CE1 1 13 2"]),
    (["Deva", "Newa", "Tirh"],
      ["1CE2 1"]),
    (["Deva", "Nand", "Newa"],
      ["1CE9 1"]),
    (["Beng", "Deva", "Shrd"],
      ["1CEA 1"]),
    (["Deva", "Newa"],
      ["1CEB 1"]),
    (["Beng", "Deva", "Newa", "Shrd"],
      ["1CED 1"]),
    (["Beng", "Deva", "Gran", "Knda", "Mlym", "Nand", "Orya", "Sinh", "Telu", "Tirh", "Tutg"],
      ["1CF2 1"]),
    (["Deva", "Gran"],
      ["1CF3 1 4 2"]),
    (["Deva", "Gran", "Knda", "Tutg"],
      ["1CF4 1"]),
    (["Beng"],
      ["1CF7 1"]),
    (["Nand"],
      ["1CFA 1"]),
    (["Cyrl", "Latn", "Syrc"],
      ["1DF8 1"]),
    (["Syrc"],
      ["1DFA 1"]),
    (["Latn", "Mong", "Phag"],
      ["202F 1"]),
    (["Adlm", "Arab"],
      ["204F 1"]),
    (["Cari", "Geor", "Glag", "Hung", "Lyci", "Orkh"],
      ["205A 1"]),
    (["Cari", "Grek", "Hung", "Mero"],
      ["205D 1"]),
    (["Deva", "Gran", "Latn"],
      ["20F0 1"]),
    (["Copt", "Latn"],
      ["2E17 1"]),
    (["Avst", "Orkh"],
      ["2E30 1"]),
    (["Avst", "Cari", "Geor", "Hung", "Kthi", "Lydi", "Samr"],
      ["2E31 1"]),
    (["Dupl"],
      ["2E3C 1 18E63 4"]),
    (["Adlm", "Arab", "Hung"],
      ["2E41 1"]),
    (["Hani", "Tang"],
      ["2FF0 10 1EF 1"]),
    (["Bopo", "Hang", "Hani", "Hira", "Kana", "Mong", "Yiii"],
      ["3001 1"]),
    (["Bopo", "Hang", "Hani", "Hira", "Kana", "Mong", "Phag", "Yiii"],
      ["3002 1"]),
    (["Bopo", "Hang", "Hani", "Hira", "Kana"],
      ["3003 1 F 1 8 4 10 1 6 1 CE0D 2"]),
    (["Hani"],
      ["3006 1 37 2 150 10 20 26 3A 28 38 31 F C 33 1 58 19 A 5 60 1F 19F61 12 1EDE 2"]),
    (["Bopo", "Hang", "Hani", "Hira", "Kana", "Mong", "Tibt", "Yiii"],
      ["3008 2"]),
    (["Bopo", "Hang", "Hani", "Hira", "Kana", "Lisu", "Mong", "Tibt", "Yiii"],
      ["300A 2"]),
    (["Bopo", "Hang", "Hani", "Hira", "Kana", "Yiii"],
      ["300C 6 2 8 DF 1 CE65 5"]),
    (["Bopo", "Hani"],
      ["302A 4"]),
    (["Hira", "Kana"],
      ["3031 5 63 4 3 1 5B 1 CE73 1 2D 2"]),
    (["Hani", "Hira", "Kana"],
      ["303C 2"]),
    (["Hani", "Latn"],
      ["A700 8"]),
    (["Deva", "Dogr", "Gujr", "Guru", "Khoj", "Knda", "Kthi", "Mahj", "Mlym", "Modi", "Nand",
      "Shrd", "Sind", "Takr", "Tirh", "Tutg"],
      ["A830 3"]),
    (["Deva", "Dogr", "Gujr", "Guru", "Khoj", "Knda", "Kthi", "Mahj", "Modi", "Nand", "Shrd",
      "Sind", "Takr", "Tirh", "Tutg"],
      ["A833 3"]),
    (["Deva", "Dogr", "Gujr", "Guru", "Khoj", "Kthi", "Mahj", "Modi", "Sind", "Takr", "Tirh"],
      ["A836 2 1 1"]),
    (["Deva", "Dogr", "Gujr", "Guru", "Khoj", "Kthi", "Mahj", "Modi", "Shrd", "Sind", "Takr",
      "Tirh"],
      ["A838 1"]),
    (["Beng", "Deva", "Tutg"],
      ["A8F1 1"]),
    (["Deva", "Taml"],
      ["A8F3 1"]),
    (["Kali", "Latn", "Mymr"],
      ["A92E 1"]),
    (["Bugi", "Java"],
      ["A9CF 1"]),
    (["Arab", "Nkoo"],
      ["FD3E 2"]),
    (["Arab", "Thaa"],
      ["FDF2 1 A 1"]),
    (["Cpmn", "Cprt", "Linb"],
      ["10100 2"]),
    (["Cprt", "Linb"],
      ["10102 1 34 9"]),
    (["Cprt", "Lina", "Linb"],
      ["10107 2D"]),
    (["Arab", "Copt"],
      ["102E0 1C"]),
    (["Mani", "Ougr"],
      ["10AF2 1"])]

end TestFleet.Unicode
