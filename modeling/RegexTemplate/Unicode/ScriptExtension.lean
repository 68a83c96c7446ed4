import RegexTemplate.Unicode.Script

/-!
# Extended scripts

Some characters are used in several scripts.  The extension of a script is the script without the
characters that have a list of scripts of their own, and with those whose list names the script
(Unicode character database, version 16).
-/

namespace RegexTemplate.Unicode.ScriptExtension

/-- Characters that share a list of scripts: the short names of the scripts, one blank apart, and
the characters. -/
structure Entry where
  scripts : String
  ranges : Ranges

/-- The characters with a list of scripts of their own. -/
def table : List Entry :=
  [⟨"avst cari copt dupl elba geor glag gong goth grek hani latn lydi mahj perm shaw",
     Ranges.ofText "b7"⟩,
   ⟨"beng cyrl deva latn lisu thai toto", Ranges.ofText "2bc"⟩,
   ⟨"bopo latn", Ranges.ofText "2c7 2c9-2cb 2d9"⟩,
   ⟨"latn lisu", Ranges.ofText "2cd"⟩,
   ⟨"latn thai", Ranges.ofText "2d7"⟩,
   ⟨"cher copt cyrl grek latn perm sunu tale", Ranges.ofText "300"⟩,
   ⟨"cher cyrl grek latn osge sunu tale todr", Ranges.ofText "301"⟩,
   ⟨"cher cyrl latn tfng", Ranges.ofText "302"⟩,
   ⟨"glag latn sunu syrc thai", Ranges.ofText "303"⟩,
   ⟨"aghb cher copt cyrl goth grek latn osge syrc tfng todr", Ranges.ofText "304"⟩,
   ⟨"copt elba glag goth kana latn", Ranges.ofText "305"⟩,
   ⟨"cyrl grek latn perm", Ranges.ofText "306"⟩,
   ⟨"copt dupl hebr latn perm syrc tale tfng todr", Ranges.ofText "307"⟩,
   ⟨"armn cyrl dupl goth grek hebr latn perm syrc tale", Ranges.ofText "308"⟩,
   ⟨"latn tfng", Ranges.ofText "309"⟩,
   ⟨"dupl latn syrc", Ranges.ofText "30a"⟩,
   ⟨"cher cyrl latn osge", Ranges.ofText "30b"⟩,
   ⟨"cher latn tale", Ranges.ofText "30c"⟩,
   ⟨"latn sunu", Ranges.ofText "30d 310"⟩,
   ⟨"ethi latn", Ranges.ofText "30e"⟩,
   ⟨"cyrl latn todr", Ranges.ofText "311"⟩,
   ⟨"grek latn perm todr", Ranges.ofText "313"⟩,
   ⟨"latn syrc", Ranges.ofText "320 325 32e"⟩,
   ⟨"cher dupl kana latn syrc", Ranges.ofText "323"⟩,
   ⟨"cher dupl latn syrc", Ranges.ofText "324"⟩,
   ⟨"latn sunu syrc", Ranges.ofText "32d"⟩,
   ⟨"cher latn syrc", Ranges.ofText "330"⟩,
   ⟨"aghb cher goth latn sunu thai", Ranges.ofText "331"⟩,
   ⟨"grek", Ranges.ofText "342 345 1dc0-1dc1"⟩,
   ⟨"latn osge", Ranges.ofText "358"⟩,
   ⟨"aghb latn todr", Ranges.ofText "35e"⟩,
   ⟨"latn", Ranges.ofText "363-36f"⟩,
   ⟨"copt grek", Ranges.ofText "374-375"⟩,
   ⟨"cyrl perm", Ranges.ofText "483"⟩,
   ⟨"cyrl glag", Ranges.ofText "484 487 2e43 a66f"⟩,
   ⟨"cyrl latn", Ranges.ofText "485-486"⟩,
   ⟨"armn geor glag", Ranges.ofText "589"⟩,
   ⟨"arab gara nkoo rohg syrc thaa yezi", Ranges.ofText "60c 61b"⟩,
   ⟨"arab syrc thaa", Ranges.ofText "61c"⟩,
   ⟨"adlm arab gara nkoo rohg syrc thaa yezi", Ranges.ofText "61f"⟩,
   ⟨"adlm arab mand mani ougr phlp rohg sogd syrc", Ranges.ofText "640"⟩,
   ⟨"arab syrc", Ranges.ofText "64b-655 670"⟩,
   ⟨"arab thaa yezi", Ranges.ofText "660-669"⟩,
   ⟨"arab rohg", Ranges.ofText "6d4"⟩,
   ⟨"beng deva gran gujr guru knda latn mlym orya shrd taml telu tirh", Ranges.ofText "951"⟩,
   ⟨"beng deva gran gujr guru knda latn mlym orya taml telu tirh", Ranges.ofText "952"⟩,
   ⟨"beng deva dogr gong gonm gran gujr guru knda mahj mlym nand onao orya sind sinh " ++
      "sylo takr taml telu tirh",
     Ranges.ofText "964"⟩,
   ⟨"beng deva dogr gong gonm gran gujr gukh guru knda limb mahj mlym nand onao orya " ++
      "sind sinh sylo takr taml telu tirh",
     Ranges.ofText "965"⟩,
   ⟨"deva dogr kthi mahj", Ranges.ofText "966-96f"⟩,
   ⟨"beng cakm sylo", Ranges.ofText "9e6-9ef"⟩,
   ⟨"guru mult", Ranges.ofText "a66-a6f"⟩,
   ⟨"gujr khoj", Ranges.ofText "ae6-aef"⟩,
   ⟨"gran taml", Ranges.ofText "be6-bf3 11301 11303 1133b-1133c 11fd0-11fd1 11fd3"⟩,
   ⟨"knda nand tutg", Ranges.ofText "ce6-cef"⟩,
   ⟨"cakm mymr tale", Ranges.ofText "1040-1049"⟩,
   ⟨"geor glag latn", Ranges.ofText "10fb"⟩,
   ⟨"runr", Ranges.ofText "16eb-16ed"⟩,
   ⟨"buhd hano tagb tglg", Ranges.ofText "1735-1736"⟩,
   ⟨"mong phag", Ranges.ofText "1802-1803 1805"⟩,
   ⟨"beng deva gran knda", Ranges.ofText "1cd0 1cd2"⟩,
   ⟨"deva", Ranges.ofText "1cd1 1cd4 1cdb 1cde-1cdf 1ce2-1ce8 1ceb-1cec 1cee-1cf1"⟩,
   ⟨"deva gran knda", Ranges.ofText "1cd3"⟩,
   ⟨"beng deva", Ranges.ofText "1cd5-1cd6 1cd8 1ce1 1cea 1ced 1cf5-1cf6"⟩,
   ⟨"deva shrd", Ranges.ofText "1cd7 1cd9 1cdc-1cdd 1ce0"⟩,
   ⟨"deva knda mlym orya taml telu", Ranges.ofText "1cda"⟩,
   ⟨"deva nand", Ranges.ofText "1ce9"⟩,
   ⟨"beng deva gran knda mlym nand orya sinh telu tirh tutg", Ranges.ofText "1cf2"⟩,
   ⟨"deva gran", Ranges.ofText "1cf3 1cf8-1cf9"⟩,
   ⟨"deva gran knda tutg", Ranges.ofText "1cf4"⟩,
   ⟨"beng", Ranges.ofText "1cf7"⟩,
   ⟨"nand", Ranges.ofText "1cfa"⟩,
   ⟨"cyrl latn syrc", Ranges.ofText "1df8"⟩,
   ⟨"syrc", Ranges.ofText "1dfa"⟩,
   ⟨"latn mong phag", Ranges.ofText "202f"⟩,
   ⟨"adlm arab", Ranges.ofText "204f"⟩,
   ⟨"cari geor glag hung lyci orkh", Ranges.ofText "205a"⟩,
   ⟨"cari grek hung mero", Ranges.ofText "205d"⟩,
   ⟨"deva gran latn", Ranges.ofText "20f0"⟩,
   ⟨"copt latn", Ranges.ofText "2e17"⟩,
   ⟨"avst orkh", Ranges.ofText "2e30"⟩,
   ⟨"avst cari geor hung kthi lydi samr", Ranges.ofText "2e31"⟩,
   ⟨"dupl", Ranges.ofText "2e3c 1bca0-1bca3"⟩,
   ⟨"adlm arab hung", Ranges.ofText "2e41"⟩,
   ⟨"hani tang", Ranges.ofText "2ff0-2fff 31ef"⟩,
   ⟨"bopo hang hani hira kana mong yiii", Ranges.ofText "3001"⟩,
   ⟨"bopo hang hani hira kana mong phag yiii", Ranges.ofText "3002"⟩,
   ⟨"bopo hang hani hira kana", Ranges.ofText "3003 3013 301c-301f 3030 3037 fe45-fe46"⟩,
   ⟨"hani", Ranges.ofLines
      ["3006 303e-303f 3190-319f 31c0-31e5 3220-3247 3280-32b0 32c0-32cb 32ff 3358-3370",
       "337b-337f 33e0-33fe 1d360-1d371 1f250-1f251"]⟩,
   ⟨"bopo hang hani hira kana mong tibt yiii", Ranges.ofText "3008-3009"⟩,
   ⟨"bopo hang hani hira kana lisu mong tibt yiii", Ranges.ofText "300a-300b"⟩,
   ⟨"bopo hang hani hira kana yiii", Ranges.ofText "300c-3011 3014-301b 30fb ff61-ff65"⟩,
   ⟨"bopo hani", Ranges.ofText "302a-302d"⟩,
   ⟨"hira kana", Ranges.ofText "3031-3035 3099-309c 30a0 30fc ff70 ff9e-ff9f"⟩,
   ⟨"hani hira kana", Ranges.ofText "303c-303d"⟩,
   ⟨"hani latn", Ranges.ofText "a700-a707"⟩,
   ⟨"deva dogr gujr guru khoj knda kthi mahj mlym modi nand shrd sind takr tirh tutg",
     Ranges.ofText "a830-a832"⟩,
   ⟨"deva dogr gujr guru khoj knda kthi mahj modi nand shrd sind takr tirh tutg",
     Ranges.ofText "a833-a835"⟩,
   ⟨"deva dogr gujr guru khoj kthi mahj modi sind takr tirh", Ranges.ofText "a836-a837 a839"⟩,
   ⟨"deva dogr gujr guru khoj kthi mahj modi shrd sind takr tirh", Ranges.ofText "a838"⟩,
   ⟨"beng deva tutg", Ranges.ofText "a8f1"⟩,
   ⟨"deva taml", Ranges.ofText "a8f3"⟩,
   ⟨"kali latn mymr", Ranges.ofText "a92e"⟩,
   ⟨"bugi java", Ranges.ofText "a9cf"⟩,
   ⟨"arab nkoo", Ranges.ofText "fd3e-fd3f"⟩,
   ⟨"arab thaa", Ranges.ofText "fdf2 fdfd"⟩,
   ⟨"cpmn cprt linb", Ranges.ofText "10100-10101"⟩,
   ⟨"cprt linb", Ranges.ofText "10102 10137-1013f"⟩,
   ⟨"cprt lina linb", Ranges.ofText "10107-10133"⟩,
   ⟨"arab copt", Ranges.ofText "102e0-102fb"⟩,
   ⟨"mani ougr", Ranges.ofText "10af2"⟩]

/-- The code points that have a list of scripts of their own. -/
def listed : Ranges := table.flatMap (·.ranges)

/-- The code points whose list names one of a script's names. -/
def listing (names : List String) : Ranges :=
  (table.filter fun entry => (Text.pieces ' ' entry.scripts).any names.contains).flatMap (·.ranges)

end RegexTemplate.Unicode.ScriptExtension
