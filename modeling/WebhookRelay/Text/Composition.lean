-- SUMMARY: Composed characters and the order of marks (normalization form C).
import WebhookRelay.Text.Ranges

/-!
# Composition

A letter with marks can be written in many ways. `compose` takes composed
characters apart, puts the marks of every letter in the order of their combining
classes, and composes again from left to right. Characters that nothing is
composed to are left as they are.
-/

namespace WebhookRelay.Text

/-- The parts of an entry `a:b`. -/
def entryParts (entry : List Char) : List Char × List Char :=
  (entry.takeWhile (· != ':'), (entry.dropWhile (· != ':')).drop 1)

-- ---------------------------------------------------------------------------
-- Combining classes
-- ---------------------------------------------------------------------------

/-- The table of combining classes: ranges, each with its class in decimal. -/
def combiningTable : String := "
  300-314:230 315:232 316-319:220 31a:232 31b:216 31c-320:220 321-322:202 323-326:220
  327-328:202 329-333:220 334-338:1 339-33c:220 33d-344:230 345:240 346:230 347-349:220
  34a-34c:230 34d-34e:220 350-352:230 353-356:220 357:230 358:232 359-35a:220 35b:230 35c:233
  35d-35e:234 35f:233 360-361:234 362:233 363-36f:230 483-487:230 591:220 592-595:230 596:220
  597-599:230 59a:222 59b:220 59c-5a1:230 5a2-5a7:220 5a8-5a9:230 5aa:220 5ab-5ac:230 5ad:222
  5ae:228 5af:230 5b0:10 5b1:11 5b2:12 5b3:13 5b4:14 5b5:15 5b6:16 5b7:17 5b8:18 5b9-5ba:19
  5bb:20 5bc:21 5bd:22 5bf:23 5c1:24 5c2:25 5c4:230 5c5:220 5c7:18 610-617:230 618:30 619:31
  61a:32 64b:27 64c:28 64d:29 64e:30 64f:31 650:32 651:33 652:34 653-654:230 655-656:220
  657-65b:230 65c:220 65d-65e:230 65f:220 670:35 6d6-6dc:230 6df-6e2:230 6e3:220 6e4:230
  6e7-6e8:230 6ea:220 6eb-6ec:230 6ed:220 711:36 730:230 731:220 732-733:230 734:220
  735-736:230 737-739:220 73a:230 73b-73c:220 73d:230 73e:220 73f-741:230 742:220 743:230
  744:220 745:230 746:220 747:230 748:220 749-74a:230 7eb-7f1:230 7f2:220 7f3:230 7fd:220
  816-819:230 81b-823:230 825-827:230 829-82d:230 859-85b:220 898:230 899-89b:220 89c-89f:230
  8ca-8ce:230 8cf-8d3:220 8d4-8e1:230 8e3:220 8e4-8e5:230 8e6:220 8e7-8e8:230 8e9:220
  8ea-8ec:230 8ed-8ef:220 8f0:27 8f1:28 8f2:29 8f3-8f5:230 8f6:220 8f7-8f8:230 8f9-8fa:220
  8fb-8ff:230 93c:7 94d:9 951:230 952:220 953-954:230 9bc:7 9cd:9 9fe:230 a3c:7 a4d:9 abc:7
  acd:9 b3c:7 b4d:9 bcd:9 c3c:7 c4d:9 c55:84 c56:91 cbc:7 ccd:9 d3b-d3c:9 d4d:9 dca:9
  e38-e39:103 e3a:9 e48-e4b:107 eb8-eb9:118 eba:9 ec8-ecb:122 f18-f19:220 f35:220 f37:220
  f39:216 f71:129 f72:130 f74:132 f7a-f7d:130 f80:130 f82-f83:230 f84:9 f86-f87:230 fc6:220
  1037:7 1039-103a:9 108d:220 135d-135f:230 1714-1715:9 1734:9 17d2:9 17dd:230 18a9:228
  1939:222 193a:230 193b:220 1a17:230 1a18:220 1a60:9 1a75-1a7c:230 1a7f:220 1ab0-1ab4:230
  1ab5-1aba:220 1abb-1abc:230 1abd:220 1abf-1ac0:220 1ac1-1ac2:230 1ac3-1ac4:220 1ac5-1ac9:230
  1aca:220 1acb-1ace:230 1b34:7 1b44:9 1b6b:230 1b6c:220 1b6d-1b73:230 1baa-1bab:9 1be6:7
  1bf2-1bf3:9 1c37:7 1cd0-1cd2:230 1cd4:1 1cd5-1cd9:220 1cda-1cdb:230 1cdc-1cdf:220 1ce0:230
  1ce2-1ce8:1 1ced:220 1cf4:230 1cf8-1cf9:230 1dc0-1dc1:230 1dc2:220 1dc3-1dc9:230 1dca:220
  1dcb-1dcc:230 1dcd:234 1dce:214 1dcf:220 1dd0:202 1dd1-1df5:230 1df6:232 1df7-1df8:228
  1df9:220 1dfa:218 1dfb:230 1dfc:233 1dfd:220 1dfe:230 1dff:220 20d0-20d1:230 20d2-20d3:1
  20d4-20d7:230 20d8-20da:1 20db-20dc:230 20e1:230 20e5-20e6:1 20e7:230 20e8:220 20e9:230
  20ea-20eb:1 20ec-20ef:220 20f0:230 2cef-2cf1:230 2d7f:9 2de0-2dff:230 302a:218 302b:228
  302c:232 302d:222 302e-302f:224 3099-309a:8 a66f:230 a674-a67d:230 a69e-a69f:230
  a6f0-a6f1:230 a806:9 a82c:9 a8c4:9 a8e0-a8f1:230 a92b-a92d:220 a953:9 a9b3:7 a9c0:9 aab0:230
  aab2-aab3:230 aab4:220 aab7-aab8:230 aabe-aabf:230 aac1:230 aaf6:9 abed:9 fb1e:26
  fe20-fe26:230 fe27-fe2d:220 fe2e-fe2f:230 101fd:220 102e0:220 10376-1037a:230 10a0d:220
  10a0f:230 10a38:230 10a39:1 10a3a:220 10a3f:9 10ae5:230 10ae6:220 10d24-10d27:230
  10eab-10eac:230 10efd-10eff:220 10f46-10f47:220 10f48-10f4a:230 10f4b:220 10f4c:230
  10f4d-10f50:220 10f82:230 10f83:220 10f84:230 10f85:220 11046:9 11070:9 1107f:9 110b9:9
  110ba:7 11100-11102:230 11133-11134:9 11173:7 111c0:9 111ca:7 11235:9 11236:7 112e9:7 112ea:9
  1133b-1133c:7 1134d:9 11366-1136c:230 11370-11374:230 11442:9 11446:7 1145e:230 114c2:9
  114c3:7 115bf:9 115c0:7 1163f:9 116b6:9 116b7:7 1172b:9 11839:9 1183a:7 1193d-1193e:9 11943:7
  119e0:9 11a34:9 11a47:9 11a99:9 11c3f:9 11d42:7 11d44-11d45:9 11d97:9 11f41-11f42:9
  16af0-16af4:1 16b30-16b36:230 16ff0-16ff1:6 1bc9e:1 1d165-1d166:216 1d167-1d169:1 1d16d:226
  1d16e-1d172:216 1d17b-1d182:220 1d185-1d189:230 1d18a-1d18b:220 1d1aa-1d1ad:230
  1d242-1d244:230 1e000-1e006:230 1e008-1e018:230 1e01b-1e021:230 1e023-1e024:230
  1e026-1e02a:230 1e08f:230 1e130-1e136:230 1e2ae:230 1e2ec-1e2ef:230 1e4ec-1e4ed:232 1e4ee:220
  1e4ef:230 1e8d0-1e8d6:220 1e944-1e949:230 1e94a:7"

/-- The ranges of characters with a combining class, and their classes. -/
def combiningRanges : List ((Nat × Nat) × Nat) :=
  (tableEntries combiningTable).map fun entry =>
    let (range, number) := entryParts entry
    (rangeOf range, (natOfDigits? 10 number).getD 0)

/-- The combining class of a character, zero for all that does not combine. -/
def combiningClass (c : Char) : Nat :=
  if c.toNat < 0x300 then 0
  else ((combiningRanges.find? fun (range, _) => isWithin [range] c).map (·.2)).getD 0

-- ---------------------------------------------------------------------------
-- Pairs
-- ---------------------------------------------------------------------------

/-- The table of composed characters: a second character, and for each first one what
the two compose to. -/
def pairTable : String := "
  300:41=c0,45=c8,49=cc,4e=1f8,4f=d2,55=d9,57=1e80,59=1ef2
  300:61=e0,65=e8,69=ec,6e=1f9,6f=f2,75=f9,77=1e81,79=1ef3
  300:a8=1fed,c2=1ea6,ca=1ec0,d4=1ed2,dc=1db,e2=1ea7,ea=1ec1,f4=1ed3
  300:fc=1dc,102=1eb0,103=1eb1,112=1e14,113=1e15,14c=1e50,14d=1e51,1a0=1edc
  300:1a1=1edd,1af=1eea,1b0=1eeb,391=1fba,395=1fc8,397=1fca,399=1fda,39f=1ff8
  300:3a5=1fea,3a9=1ffa,3b1=1f70,3b5=1f72,3b7=1f74,3b9=1f76,3bf=1f78,3c5=1f7a
  300:3c9=1f7c,3ca=1fd2,3cb=1fe2,415=400,418=40d,435=450,438=45d,1f00=1f02
  300:1f01=1f03,1f08=1f0a,1f09=1f0b,1f10=1f12,1f11=1f13,1f18=1f1a,1f19=1f1b,1f20=1f22
  300:1f21=1f23,1f28=1f2a,1f29=1f2b,1f30=1f32,1f31=1f33,1f38=1f3a,1f39=1f3b,1f40=1f42
  300:1f41=1f43,1f48=1f4a,1f49=1f4b,1f50=1f52,1f51=1f53,1f59=1f5b,1f60=1f62,1f61=1f63
  300:1f68=1f6a,1f69=1f6b,1fbf=1fcd,1ffe=1fdd
  301:41=c1,43=106,45=c9,47=1f4,49=cd,4b=1e30,4c=139,4d=1e3e
  301:4e=143,4f=d3,50=1e54,52=154,53=15a,55=da,57=1e82,59=dd
  301:5a=179,61=e1,63=107,65=e9,67=1f5,69=ed,6b=1e31,6c=13a
  301:6d=1e3f,6e=144,6f=f3,70=1e55,72=155,73=15b,75=fa,77=1e83
  301:79=fd,7a=17a,a8=385,c2=1ea4,c5=1fa,c6=1fc,c7=1e08,ca=1ebe
  301:cf=1e2e,d4=1ed0,d5=1e4c,d8=1fe,dc=1d7,e2=1ea5,e5=1fb,e6=1fd
  301:e7=1e09,ea=1ebf,ef=1e2f,f4=1ed1,f5=1e4d,f8=1ff,fc=1d8,102=1eae
  301:103=1eaf,112=1e16,113=1e17,14c=1e52,14d=1e53,168=1e78,169=1e79,1a0=1eda
  301:1a1=1edb,1af=1ee8,1b0=1ee9,391=386,395=388,397=389,399=38a,39f=38c
  301:3a5=38e,3a9=38f,3b1=3ac,3b5=3ad,3b7=3ae,3b9=3af,3bf=3cc,3c5=3cd
  301:3c9=3ce,3ca=390,3cb=3b0,3d2=3d3,413=403,41a=40c,433=453,43a=45c
  301:1f00=1f04,1f01=1f05,1f08=1f0c,1f09=1f0d,1f10=1f14,1f11=1f15,1f18=1f1c,1f19=1f1d
  301:1f20=1f24,1f21=1f25,1f28=1f2c,1f29=1f2d,1f30=1f34,1f31=1f35,1f38=1f3c,1f39=1f3d
  301:1f40=1f44,1f41=1f45,1f48=1f4c,1f49=1f4d,1f50=1f54,1f51=1f55,1f59=1f5d,1f60=1f64
  301:1f61=1f65,1f68=1f6c,1f69=1f6d,1fbf=1fce,1ffe=1fde
  302:41=c2,43=108,45=ca,47=11c,48=124,49=ce,4a=134,4f=d4
  302:53=15c,55=db,57=174,59=176,5a=1e90,61=e2,63=109,65=ea
  302:67=11d,68=125,69=ee,6a=135,6f=f4,73=15d,75=fb,77=175
  302:79=177,7a=1e91,1ea0=1eac,1ea1=1ead,1eb8=1ec6,1eb9=1ec7,1ecc=1ed8,1ecd=1ed9
  303:41=c3,45=1ebc,49=128,4e=d1,4f=d5,55=168,56=1e7c,59=1ef8
  303:61=e3,65=1ebd,69=129,6e=f1,6f=f5,75=169,76=1e7d,79=1ef9
  303:c2=1eaa,ca=1ec4,d4=1ed6,e2=1eab,ea=1ec5,f4=1ed7,102=1eb4,103=1eb5
  303:1a0=1ee0,1a1=1ee1,1af=1eee,1b0=1eef
  304:41=100,45=112,47=1e20,49=12a,4f=14c,55=16a,59=232,61=101
  304:65=113,67=1e21,69=12b,6f=14d,75=16b,79=233,c4=1de,c6=1e2
  304:d5=22c,d6=22a,dc=1d5,e4=1df,e6=1e3,f5=22d,f6=22b,fc=1d6
  304:1ea=1ec,1eb=1ed,226=1e0,227=1e1,22e=230,22f=231,391=1fb9,399=1fd9
  304:3a5=1fe9,3b1=1fb1,3b9=1fd1,3c5=1fe1,418=4e2,423=4ee,438=4e3,443=4ef
  304:1e36=1e38,1e37=1e39,1e5a=1e5c,1e5b=1e5d
  306:41=102,45=114,47=11e,49=12c,4f=14e,55=16c,61=103,65=115
  306:67=11f,69=12d,6f=14f,75=16d,228=1e1c,229=1e1d,391=1fb8,399=1fd8
  306:3a5=1fe8,3b1=1fb0,3b9=1fd0,3c5=1fe0,410=4d0,415=4d6,416=4c1,418=419
  306:423=40e,430=4d1,435=4d7,436=4c2,438=439,443=45e,1ea0=1eb6,1ea1=1eb7
  307:41=226,42=1e02,43=10a,44=1e0a,45=116,46=1e1e,47=120,48=1e22
  307:49=130,4d=1e40,4e=1e44,4f=22e,50=1e56,52=1e58,53=1e60,54=1e6a
  307:57=1e86,58=1e8a,59=1e8e,5a=17b,61=227,62=1e03,63=10b,64=1e0b
  307:65=117,66=1e1f,67=121,68=1e23,6d=1e41,6e=1e45,6f=22f,70=1e57
  307:72=1e59,73=1e61,74=1e6b,77=1e87,78=1e8b,79=1e8f,7a=17c,15a=1e64
  307:15b=1e65,160=1e66,161=1e67,17f=1e9b,1e62=1e68,1e63=1e69
  308:41=c4,45=cb,48=1e26,49=cf,4f=d6,55=dc,57=1e84,58=1e8c
  308:59=178,61=e4,65=eb,68=1e27,69=ef,6f=f6,74=1e97,75=fc
  308:77=1e85,78=1e8d,79=ff,d5=1e4e,f5=1e4f,16a=1e7a,16b=1e7b,399=3aa
  308:3a5=3ab,3b9=3ca,3c5=3cb,3d2=3d4,406=407,410=4d2,415=401,416=4dc
  308:417=4de,418=4e4,41e=4e6,423=4f0,427=4f4,42b=4f8,42d=4ec,430=4d3
  308:435=451,436=4dd,437=4df,438=4e5,43e=4e7,443=4f1,447=4f5,44b=4f9
  308:44d=4ed,456=457,4d8=4da,4d9=4db,4e8=4ea,4e9=4eb
  309:41=1ea2,45=1eba,49=1ec8,4f=1ece,55=1ee6,59=1ef6,61=1ea3,65=1ebb
  309:69=1ec9,6f=1ecf,75=1ee7,79=1ef7,c2=1ea8,ca=1ec2,d4=1ed4,e2=1ea9
  309:ea=1ec3,f4=1ed5,102=1eb2,103=1eb3,1a0=1ede,1a1=1edf,1af=1eec,1b0=1eed
  30a:41=c5,55=16e,61=e5,75=16f,77=1e98,79=1e99 30b:4f=150,55=170,6f=151,75=171,423=4f2,443=4f3
  30c:41=1cd,43=10c,44=10e,45=11a,47=1e6,48=21e,49=1cf,4b=1e8
  30c:4c=13d,4e=147,4f=1d1,52=158,53=160,54=164,55=1d3,5a=17d
  30c:61=1ce,63=10d,64=10f,65=11b,67=1e7,68=21f,69=1d0,6a=1f0
  30c:6b=1e9,6c=13e,6e=148,6f=1d2,72=159,73=161,74=165,75=1d4
  30c:7a=17e,dc=1d9,fc=1da,1b7=1ee,292=1ef
  30f:41=200,45=204,49=208,4f=20c,52=210,55=214,61=201,65=205
  30f:69=209,6f=20d,72=211,75=215,474=476,475=477
  311:41=202,45=206,49=20a,4f=20e,52=212,55=216,61=203,65=207 311:69=20b,6f=20f,72=213,75=217
  313:391=1f08,395=1f18,397=1f28,399=1f38,39f=1f48,3a9=1f68,3b1=1f00,3b5=1f10
  313:3b7=1f20,3b9=1f30,3bf=1f40,3c1=1fe4,3c5=1f50,3c9=1f60
  314:391=1f09,395=1f19,397=1f29,399=1f39,39f=1f49,3a1=1fec,3a5=1f59,3a9=1f69
  314:3b1=1f01,3b5=1f11,3b7=1f21,3b9=1f31,3bf=1f41,3c1=1fe5,3c5=1f51,3c9=1f61
  31b:4f=1a0,55=1af,6f=1a1,75=1b0
  323:41=1ea0,42=1e04,44=1e0c,45=1eb8,48=1e24,49=1eca,4b=1e32,4c=1e36
  323:4d=1e42,4e=1e46,4f=1ecc,52=1e5a,53=1e62,54=1e6c,55=1ee4,56=1e7e
  323:57=1e88,59=1ef4,5a=1e92,61=1ea1,62=1e05,64=1e0d,65=1eb9,68=1e25
  323:69=1ecb,6b=1e33,6c=1e37,6d=1e43,6e=1e47,6f=1ecd,72=1e5b,73=1e63
  323:74=1e6d,75=1ee5,76=1e7f,77=1e89,79=1ef5,7a=1e93,1a0=1ee2,1a1=1ee3 323:1af=1ef0,1b0=1ef1
  324:55=1e72,75=1e73 325:41=1e00,61=1e01 326:53=218,54=21a,73=219,74=21b
  327:43=c7,44=1e10,45=228,47=122,48=1e28,4b=136,4c=13b,4e=145
  327:52=156,53=15e,54=162,63=e7,64=1e11,65=229,67=123,68=1e29
  327:6b=137,6c=13c,6e=146,72=157,73=15f,74=163
  328:41=104,45=118,49=12e,4f=1ea,55=172,61=105,65=119,69=12f 328:6f=1eb,75=173
  32d:44=1e12,45=1e18,4c=1e3c,4e=1e4a,54=1e70,55=1e76,64=1e13,65=1e19
  32d:6c=1e3d,6e=1e4b,74=1e71,75=1e77 32e:48=1e2a,68=1e2b
  330:45=1e1a,49=1e2c,55=1e74,65=1e1b,69=1e2d,75=1e75
  331:42=1e06,44=1e0e,4b=1e34,4c=1e3a,4e=1e48,52=1e5e,54=1e6e,5a=1e94
  331:62=1e07,64=1e0f,68=1e96,6b=1e35,6c=1e3b,6e=1e49,72=1e5f,74=1e6f 331:7a=1e95
  338:3c=226e,3d=2260,3e=226f,2190=219a,2192=219b,2194=21ae,21d0=21cd,21d2=21cf
  338:21d4=21ce,2203=2204,2208=2209,220b=220c,2223=2224,2225=2226,223c=2241,2243=2244
  338:2245=2247,2248=2249,224d=226d,2261=2262,2264=2270,2265=2271,2272=2274,2273=2275
  338:2276=2278,2277=2279,227a=2280,227b=2281,227c=22e0,227d=22e1,2282=2284,2283=2285
  338:2286=2288,2287=2289,2291=22e2,2292=22e3,22a2=22ac,22a8=22ad,22a9=22ae,22ab=22af
  338:22b2=22ea,22b3=22eb,22b4=22ec,22b5=22ed
  342:a8=1fc1,3b1=1fb6,3b7=1fc6,3b9=1fd6,3c5=1fe6,3c9=1ff6,3ca=1fd7,3cb=1fe7
  342:1f00=1f06,1f01=1f07,1f08=1f0e,1f09=1f0f,1f20=1f26,1f21=1f27,1f28=1f2e,1f29=1f2f
  342:1f30=1f36,1f31=1f37,1f38=1f3e,1f39=1f3f,1f50=1f56,1f51=1f57,1f59=1f5f,1f60=1f66
  342:1f61=1f67,1f68=1f6e,1f69=1f6f,1fbf=1fcf,1ffe=1fdf
  345:391=1fbc,397=1fcc,3a9=1ffc,3ac=1fb4,3ae=1fc4,3b1=1fb3,3b7=1fc3,3c9=1ff3
  345:3ce=1ff4,1f00=1f80,1f01=1f81,1f02=1f82,1f03=1f83,1f04=1f84,1f05=1f85,1f06=1f86
  345:1f07=1f87,1f08=1f88,1f09=1f89,1f0a=1f8a,1f0b=1f8b,1f0c=1f8c,1f0d=1f8d,1f0e=1f8e
  345:1f0f=1f8f,1f20=1f90,1f21=1f91,1f22=1f92,1f23=1f93,1f24=1f94,1f25=1f95,1f26=1f96
  345:1f27=1f97,1f28=1f98,1f29=1f99,1f2a=1f9a,1f2b=1f9b,1f2c=1f9c,1f2d=1f9d,1f2e=1f9e
  345:1f2f=1f9f,1f60=1fa0,1f61=1fa1,1f62=1fa2,1f63=1fa3,1f64=1fa4,1f65=1fa5,1f66=1fa6
  345:1f67=1fa7,1f68=1fa8,1f69=1fa9,1f6a=1faa,1f6b=1fab,1f6c=1fac,1f6d=1fad,1f6e=1fae
  345:1f6f=1faf,1f70=1fb2,1f74=1fc2,1f7c=1ff2,1fb6=1fb7,1fc6=1fc7,1ff6=1ff7 653:627=622
  654:627=623,648=624,64a=626,6c1=6c2,6d2=6d3,6d5=6c0 655:627=625 93c:928=929,930=931,933=934
  9be:9c7=9cb 9d7:9c7=9cc b3e:b47=b4b b56:b47=b48 b57:b47=b4c bbe:bc6=bca,bc7=bcb
  bd7:b92=b94,bc6=bcc c56:c46=c48 cc2:cc6=cca cd5:cbf=cc0,cc6=cc7,cca=ccb cd6:cc6=cc8
  d3e:d46=d4a,d47=d4b d57:d46=d4c dca:dd9=dda,ddc=ddd dcf:dd9=ddc ddf:dd9=dde 102e:1025=1026
  1b35:1b05=1b06,1b07=1b08,1b09=1b0a,1b0b=1b0c,1b0d=1b0e,1b11=1b12,1b3a=1b3b,1b3c=1b3d
  1b35:1b3e=1b40,1b3f=1b41,1b42=1b43
  3099:3046=3094,304b=304c,304d=304e,304f=3050,3051=3052,3053=3054,3055=3056,3057=3058
  3099:3059=305a,305b=305c,305d=305e,305f=3060,3061=3062,3064=3065,3066=3067,3068=3069
  3099:306f=3070,3072=3073,3075=3076,3078=3079,307b=307c,309d=309e,30a6=30f4,30ab=30ac
  3099:30ad=30ae,30af=30b0,30b1=30b2,30b3=30b4,30b5=30b6,30b7=30b8,30b9=30ba,30bb=30bc
  3099:30bd=30be,30bf=30c0,30c1=30c2,30c4=30c5,30c6=30c7,30c8=30c9,30cf=30d0,30d2=30d3
  3099:30d5=30d6,30d8=30d9,30db=30dc,30ef=30f7,30f0=30f8,30f1=30f9,30f2=30fa,30fd=30fe
  309a:306f=3071,3072=3074,3075=3077,3078=307a,307b=307d,30cf=30d1,30d2=30d4,30d5=30d7
  309a:30d8=30da,30db=30dd 110ba:11099=1109a,1109b=1109c,110a5=110ab
  11127:11131=1112e,11132=1112f 1133e:11347=1134b 11357:11347=1134c 114b0:114b9=114bc
  114ba:114b9=114bb 114bd:114b9=114be 115af:115b8=115ba,115b9=115bb 11930:11935=11938"

/-- Composed characters: the first, the second and the composed one. -/
def pairs : List (Nat × Nat × Nat) :=
  (tableEntries pairTable).flatMap fun entry =>
    let (second, firsts) := entryParts entry
    (splitOn ',' firsts).map fun item =>
      (codePoint (item.takeWhile (· != '=')), codePoint second,
        codePoint ((item.dropWhile (· != '=')).drop 1))

/-- The first and the last code point of the composed Hangul syllables. -/
def syllables : Nat × Nat :=
  (0xAC00, 0xD7A3)

/-- What a syllable is composed of: a lead and a vowel, or a syllable and a tail. -/
def syllableParts? (n : Nat) : Option (Nat × Nat) :=
  if syllables.1 ≤ n ∧ n ≤ syllables.2 then
    let place := n - syllables.1
    if place % 28 = 0 then some (0x1100 + place / 588, 0x1161 + place % 588 / 28)
    else some (n - place % 28, 0x11A7 + place % 28)
  else none

/-- The syllable that a lead and a vowel, or a syllable and a tail, compose to. -/
def syllable? (first second : Nat) : Option Nat :=
  if 0x1100 ≤ first ∧ first < 0x1113 ∧ 0x1161 ≤ second ∧ second < 0x1176 then
    some (syllables.1 + (first - 0x1100) * 588 + (second - 0x1161) * 28)
  else if syllables.1 ≤ first ∧ first ≤ syllables.2 ∧ (first - syllables.1) % 28 = 0
      ∧ 0x11A7 < second ∧ second < 0x11C3 then
    some (first + (second - 0x11A7))
  else none

/-- What a character is composed of. -/
def parts? (c : Char) : Option (Char × Char) :=
  let listed := (pairs.find? fun p => p.2.2 = c.toNat).map fun p => (p.1, p.2.1)
  (syllableParts? c.toNat <|> listed).map fun (a, b) => (Char.ofNat a, Char.ofNat b)

/-- What two characters compose to. -/
def composed? (first second : Char) : Option Char :=
  let listed := (pairs.find? fun p => p.1 = first.toNat ∧ p.2.1 = second.toNat).map (·.2.2)
  (syllable? first.toNat second.toNat <|> listed).map Char.ofNat

-- ---------------------------------------------------------------------------
-- Texts
-- ---------------------------------------------------------------------------

/-- Takes a character apart; the fuel bounds how deep pairs lie in pairs, at most three. -/
def takeApart (c : Char) : Nat → List Char
  | 0 => [c]
  | fuel + 1 =>
    match parts? c with
    | some (first, second) => takeApart first fuel ++ [second]
    | none => [c]

/-- Puts a mark before the marks of a higher class that stand at the end of a text;
the text is given backwards. -/
def insertMark (mark : Char) : List Char → List Char
  | [] => [mark]
  | c :: cs =>
    if combiningClass mark < combiningClass c then c :: insertMark mark cs else mark :: c :: cs

/-- The marks of every letter in the order of their classes. -/
def orderMarks (cs : List Char) : List Char :=
  let place := fun back c => if combiningClass c = 0 then c :: back else insertMark c back
  (cs.foldl place []).reverse

/-- Composes a letter with what follows it. `last` is the class of the last mark that
was left between; marks of that class cannot get past it. -/
def composeFrom (letter : Char) (between : List Char) (last : Option Nat) :
    List Char → List Char
  | [] => letter :: between
  | c :: cs =>
    let free := match last with
      | none => true
      | some k => k < combiningClass c
    match (if free then composed? letter c else none) with
    | some joined => composeFrom joined between last cs
    | none =>
      if combiningClass c = 0 then letter :: between ++ composeFrom c [] none cs
      else composeFrom letter (between ++ [c]) (some (combiningClass c)) cs

/-- The composed form of a text. -/
def compose (cs : List Char) : List Char :=
  match orderMarks (cs.flatMap (takeApart · 4)) with
  | [] => []
  | c :: cs => composeFrom c [] (if combiningClass c = 0 then none else some 255) cs

end WebhookRelay.Text
