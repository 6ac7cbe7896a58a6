namespace DatabaseSchema.Text

def scriptNames : List (List String) := [
    ["adlm", "adlam"], ["aghb", "caucasianalbanian"], ["ahom"], ["arab", "arabic"],
    ["armi", "imperialaramaic"], ["armn", "armenian"], ["avst", "avestan"],
    ["bali", "balinese"], ["bamu", "bamum"], ["bass", "bassavah"], ["batk", "batak"],
    ["beng", "bengali"], ["bhks", "bhaiksuki"], ["bopo", "bopomofo"], ["brah", "brahmi"],
    ["brai", "braille"], ["bugi", "buginese"], ["buhd", "buhid"], ["cakm", "chakma"],
    ["cans", "canadianaboriginal"], ["cari", "carian"], ["cham"], ["cher", "cherokee"],
    ["chrs", "chorasmian"], ["copt", "coptic", "qaac"], ["cpmn", "cyprominoan"],
    ["cprt", "cypriot"], ["cyrl", "cyrillic"], ["deva", "devanagari"], ["diak", "divesakuru"],
    ["dogr", "dogra"], ["dsrt", "deseret"], ["dupl", "duployan"],
    ["egyp", "egyptianhieroglyphs"], ["elba", "elbasan"], ["elym", "elymaic"],
    ["ethi", "ethiopic"], ["geor", "georgian"], ["glag", "glagolitic"],
    ["gong", "gunjalagondi"], ["gonm", "masaramgondi"], ["goth", "gothic"],
    ["gran", "grantha"], ["grek", "greek"], ["gujr", "gujarati"], ["guru", "gurmukhi"],
    ["hang", "hangul"], ["hani", "han"], ["hano", "hanunoo"], ["hatr", "hatran"],
    ["hebr", "hebrew"], ["hira", "hiragana"], ["hluw", "anatolianhieroglyphs"],
    ["hmng", "pahawhhmong"], ["hmnp", "nyiakengpuachuehmong"], ["hung", "oldhungarian"],
    ["ital", "olditalic"], ["java", "javanese"], ["kali", "kayahli"], ["kana", "katakana"],
    ["kawi"], ["khar", "kharoshthi"], ["khmr", "khmer"], ["khoj", "khojki"],
    ["kits", "khitansmallscript"], ["knda", "kannada"], ["kthi", "kaithi"],
    ["lana", "taitham"], ["laoo", "lao"], ["latn", "latin"], ["lepc", "lepcha"],
    ["limb", "limbu"], ["lina", "lineara"], ["linb", "linearb"], ["lisu"], ["lyci", "lycian"],
    ["lydi", "lydian"], ["mahj", "mahajani"], ["maka", "makasar"], ["mand", "mandaic"],
    ["mani", "manichaean"], ["marc", "marchen"], ["medf", "medefaidrin"],
    ["mend", "mendekikakui"], ["merc", "meroiticcursive"], ["mero", "meroitichieroglyphs"],
    ["mlym", "malayalam"], ["modi"], ["mong", "mongolian"], ["mroo", "mro"],
    ["mtei", "meeteimayek"], ["mult", "multani"], ["mymr", "myanmar"], ["nagm", "nagmundari"],
    ["nand", "nandinagari"], ["narb", "oldnortharabian"], ["nbat", "nabataean"], ["newa"],
    ["nkoo", "nko"], ["nshu", "nushu"], ["ogam", "ogham"], ["olck", "olchiki"],
    ["orkh", "oldturkic"], ["orya", "oriya"], ["osge", "osage"], ["osma", "osmanya"],
    ["ougr", "olduyghur"], ["palm", "palmyrene"], ["pauc", "paucinhau"], ["perm", "oldpermic"],
    ["phag", "phagspa"], ["phli", "inscriptionalpahlavi"], ["phlp", "psalterpahlavi"],
    ["phnx", "phoenician"], ["plrd", "miao"], ["prti", "inscriptionalparthian"],
    ["rjng", "rejang"], ["rohg", "hanifirohingya"], ["runr", "runic"], ["samr", "samaritan"],
    ["sarb", "oldsoutharabian"], ["saur", "saurashtra"], ["sgnw", "signwriting"],
    ["shaw", "shavian"], ["shrd", "sharada"], ["sidd", "siddham"], ["sind", "khudawadi"],
    ["sinh", "sinhala"], ["sogd", "sogdian"], ["sogo", "oldsogdian"], ["sora", "sorasompeng"],
    ["soyo", "soyombo"], ["sund", "sundanese"], ["sylo", "sylotinagri"], ["syrc", "syriac"],
    ["tagb", "tagbanwa"], ["takr", "takri"], ["tale", "taile"], ["talu", "newtailue"],
    ["taml", "tamil"], ["tang", "tangut"], ["tavt", "taiviet"], ["telu", "telugu"],
    ["tfng", "tifinagh"], ["tglg", "tagalog"], ["thaa", "thaana"], ["thai"],
    ["tibt", "tibetan"], ["tirh", "tirhuta"], ["tnsa", "tangsa"], ["toto"],
    ["ugar", "ugaritic"], ["vaii", "vai"], ["vith", "vithkuqi"], ["wara", "warangciti"],
    ["wcho", "wancho"], ["xpeo", "oldpersian"], ["xsux", "cuneiform"], ["yezi", "yezidi"],
    ["yiii", "yi"], ["zanb", "zanabazarsquare"], ["zinh", "inherited", "qaai"],
    ["zyyy", "common"], ["zzzz", "unknown"], ["gara", "garay"], ["gukh", "gurungkhema"],
    ["krai", "kiratrai"], ["onao", "olonal"], ["sunu", "sunuwar"], ["todr", "todhri"],
    ["tutg", "tulutigalari"], ["berf", "beriaerfe"], ["sidt", "sidetic"], ["tayo", "taiyo"],
    ["tols", "tolongsiki"]]

-- Where each stretch of one script begins: the code point times 256 plus the script's place in
-- the list of scripts, twelve to a word of 29 bits each, least first.
def scriptStarts : List Nat :=
  [0x6c2280035e88001808a000bba20005d228002ae88001548a0007ba200030a280016e88000828a00000a2,
   0x1bc51800dd4ac006e944003702b0018050800bb288005d41a002e5a20017022800ae688001f08a000f7a2,
   0x1c6d1800e30ac0071746003882b001c3d1000e18ac0070b44003842b001c051800dfcac006fd440037a2b,
   0x2ac8280155e8c00a620a00530a3002438d801216840080036003f02b001f10c000e8cac00745460038e2b,
   0x303018018168800c0006005f5a3002f7990017ae8c00ba064005c8a3002c8990016428c00b1a0a0058ba3,
   0x338818019c28400cac060064ba100320818019028800c40060061fa20030e0180186e8800c1a060060ca2,
   0x3fdd1801f018800f65460078091003a801801d361800e97460070f860038751801c021800dbc06006dda2,
   0x438018021ae8c010c10c0085fa30042f278021728c010809e0083fa3004183b8020ba8c01000ee007fd62,
   0x4c2858026128c0130016009661c004b25100255470012a342009001c004718180238a880112e0600892a3,
   0x4de058026ea8c0136c16009b3a3004d9058026c68c0135416009a9a3004c9858026468c0131e160098da3,
   0x4f3058027928c013be16009dea3004ee058027628c013ae16009cfa3004e5858027268c0138e16009c5a3,
   0x519168028c68c014545a00a29a300509968028468c0141e5a00a0ba300502968028128c014025a009ffa3,
   0x525968029268c0148e5a00a43a30051f168028f68c014785a00a3aa30051c168028de8c0146a5a00a34a3,
   0x54296002a128c015025800a77a3005331680297e8c014bc5a00a5da30052c9680294a8c014a25a00a4ea3,
   0x55e16002aea8c0156a5800ab4a30055916002ac68c015545800aa9a30054996002a4a8c0151e5800a8ea3,
   0x57c96002bca8c015cc5800ae4a30057016002b468c015a05800acea30056596002b2a8c0158e5800ac6a3,
   0x59933802cc68c01654ce00b29a300589b3802c468c0161ece00b0da300582b3802c128c01602ce00b00a3,
   0x5ae33802d628c016aace00b4ea3005a5b3802d268c0168ece00b45a30059e33802cea8c0166ace00b34a3,
   0x5c945802e468c0171d1600b8ba3005c2c5802e128c017051600b78a3005b333802d928c016bece00b5ea3,
   0x5d745802eae8c017511600ba5a3005d1c5802e828c0173d1600b9da3005ce45802e6e8c017331600b96a3,
   0x5f345802f628c017af1600bd1a3005e845802f3a8c017951600bc9a3005e345802f0e8c0177d1600bbaa3,
   0x623470031168c018791c00c3aa300615470030a68c018251c00c11a300607470030368c018011c00bfba3,
   0x633470031928c018c11c00c5ea30062e4700316e8c018b11c00c57a30062ac700313a8c018951c00c49a3,
   0x65d518032d504019694600caa4100654d180324904019234600c8e4100646d180320104018ef1c00c70a3,
   0x6725180338104019bf4600cdc410066bd1803355040199d4600cca4100664d1803319040198b4600cbc41,
   0x6a4d18035195801a8b4600d125600688d18034395801a1b4600d00560067a518033c504019e14600ce641,
   0x6d951803669fc01b2f4600d857f006c251803605fc01b014600d6656006b2518035515801aa14600d4a56,
   0x6ebd1803759fc01bab4600dcf7f006e5d1803729fc01b8f4600dc07f006df518036f5fc01b794600db37f,
   0x740a20039728c01c812400e3fa20071dd18038064801beb4600df27f006f851803799fc01bc14600dd87f,
   0x76022003afa8c01d4e8800ea6a300752a2003a928c01d188800e8ba30074322003a168c01d088800e83a3,
   0x7a4c9803d228c01e012600ee0a30076e22003b6a8c01da08800ecfa30076422003b1e8c01d8c8800ec5a3,
   0x8002e003f6e8c01fb32600fd5a2007e749803f368c01f7d2600fbda3007ccc9803e628c01ee32600f6da3,
   0x924d180480090022005c010fc250087dd1004340940219d46010cd25008645180431c940218d46010a025,
   0x94751804a2890025134601260240092f5180496890024b34601258240092bd1804940900249d460124a24,
   0x96bd1804b20900258d46012c22400960d1804b00900257f46012b8240095b51804ac89002563460129024,
   0x9fb51804e805802735460138024009bed1804d7490026b74601318240098b51804c48900262346012d824,
   0xb8fc8005c5a8c02e0120016f9a300b773b005bae8802d40ec0169da300b40320050004c027fd46013f816,
   0xbc01f005dd28c02ee50e01771a300bb743805db68c02ec10e01754a300ba008805cde8c02e6b440172030,
   0xc102c00606a8c0300cb001805a200c022c00600a8803000b0017faa300bf81f005faa8c02fc07c017dea3,
   0xca0238064f28c032608e0192ca300c902380647e8c032008e018f6a300c58098062ae8c03100b001879a3,
   0xcedd1806742280339546019b08a00cd65180660228032eb46019708900cb75180654224032888e01941a3,
   0xd4821806a2a8c034fe8601a7da300d302180697e8c034408601a1e1000d0e5180680040033c07c019de8a,
   0xde005006e02100369c0e01b4da300d8003806bb28c035c14201adea300d5850806aba8c035408601a9aa3,
   0xe5dd180724094039174601c801b00e283280713518038954601c3b4600e1c5180700118037f81401bf4a3,
   0xe7a508073ba88039db4201ce9a200e715080738688039a94201cd3a200e68508073228c039810801cbd25,
   0xeb5a2807598ac03ac48a01d5d2b00e96228074ac6c03a4c5601d004500e7dd18073ea88039f14201cf5a2,
   0xfa415807d1a8c03e405601f1ea300f8c15807c5a8c03e005601e004500ee0508076fcac03af28a01d781b,
   0xfc015807dfa8c03ebe5601f5ea300fae95807d728c03eb65601f5aa300fac95807d628c03ea05601f4ea3,
   0xffb15807fd68c03fe45601ff0a300fee95807f728c03fac5601fd4a300fe315807f168c03f6c5601fb5a3,
   0x1047d180820288040fe8a02074a201039518081c514040cd4402065a3010075100803284040014401fffa3,
   0x1099228084b288042548a02127a2010931580840288041e346020d0a10106151808282880413b460209045,
   0x14000780918288048974602440a2012155180864288043194602189a2010b02280853e880429c8a02133a2,
   0x16945180b49c9405a4d4602d00250167c8c00b3d28c059003002c6045016001300adda88056e94602900a2,
   0x16d41200b69e8c05b404802d97a3016c01200b5fe3c05ae34602d6f8f016b45180b4c23c05a5d4602d2d25,
   0x16ec1200b75e8c05ba04802dcfa3016e41200b71e8c05b804802dbfa3016dc1200b6de8c05b604802dafa3,
   0x18029780bfc28805fad4602f002f0177a5180ba6cbc05d354602e802f0172f5180b8028805bc03602ddfa3,
   0x184bd180c104cc06081460303ca20181c1780c0c2880605c5c0302aa1018109780c022880600e5e03006a2,
   0x18c7d180c4c4b80626146031050d018805180c3f4ec061f744030a13b018505100c274cc061374403099a1,
   0x19681d80c9fe88064c05c03220a20190fd180c800b8063e076031efa2018f35180c70288063401a03190a2,
   0x52804c029341281498f460a4909f05246d18280027c09c005e04dc0a201a001780cd62880660076032ffa2,
   0x5416d182a0021414fe28a0a7dda3053c5a2829e228814e448a0a700a20537c51829a802014c80360a62ca3,
   0x54979d02a4ba8815200740a8e01c0546d5182a339e41518d460a880790543c5182a101b815075460a830a2,
   0x54f02e02a778e4153b5460a9d039054e7d102a73a8c15300720a97da3054b01702a57dd0152a9460a93074,
   0x556dc682ab0e8c155011a0aa605c0552e0a82a96a8c154a02a0aa4ea3055200a82a8de8c154002a0a9ffa3,
   0x5597d182aca0901564f460ab20240558bd182ac44901561f460ab092405583d182ac0490155ef460aae05a,
   0x55fd5182afc168157dd460abc05a055b80b02adb28c156d5440ab6645055b29582ad7114156b7440ab3045,
   0x7d83d183ec01141f5b5460fa702f07d375183e400bc1aff9460d7cb2e06be3d1835ec0b81af49460ac002e,
   0x7da2d183ed0cc81f685460fb403207d9fd183ecf8c81f67b460fb383207d9bd183ec74c81f631460fb1305,
   0x7f185103f8b86c1fc41420fe1aa307f085103f802841fbe0060fdd0a307ea00183f4fa881f6a0060fb4632,
   0x7f80d103fc028c1fdff440fefda307f3b0183f9d68c1fce0060fe6ca307f345103f99e8c1fca9440fe53a3,
   0x7fe45183ff08b81ff7f460ffa02e07fcf5103fdc4ec1fee1440ff663b07fadd103fd05141fe77440ff2145,
   0x7fff5183ffe6881ffdf460ffe8a207ff3d183ff82881ffbb460ffda2e07fec5183ff48b81ffa1460ffca2e,
   0x802f51840141242009d461003f490801f518400f1242007746100284908013d18400352420019461000049,
   0x80d0158406768c20321441018fa3080a0158404de88202694610107a208081d184040288201f7461008049,
   0x81801c040bf28c205c344102e0a108168d1840a80502053b46102804b080ff518407f684203a144101a1a3,
   0x81e44e040f128c20741381039f97081cf51840e025c206f746103506d081a5d1840cc0a42065a7010324a3,
   0x8280110413f28c209b0d0104d4a308258340412aa8c20940d21049ea30824034841141ec208003e103d6a3,
   0x82cb518416526420b27461058c99082c5d18415f26420af7461057099082b7808415928c20a600210528a3,
   0x839bd18418012020be946105c0a9082ded18416ee6420b7546105b399082d95184168e6420b45461059799,
   0x8403518420006820f7746107b245083d8d1841e1d1420f0d461078045083b451841d812020ead461074048,
   0x842b8204215a8c21080081083f1a0841ed18420f0682107346108371a0841b51842028682101346108081a,
   0x848e51842401c4211f662108f6a30847a188423ce8c211c062108b0a308453b004227e8c21100c0108606b,
   0x84e92a0427428c21378a8109b8a3084d02a04260154212b54610940ac0849fa60424ea8c21240981091f71,
   0x851dd18428e0f42146d4610a193d0850c51842854f4214294610a0c3d08503d1842814f4214094610a003d,
   0x858003042bde8c215d6a010ae7a30856028042a828c21500be10a60780852cd1842940f4214934610a3f3d,
   0x85ced1842e65c0217254610b8070085bc37842dce8c216c0de10b5873085ab51842d01cc216720c10b36a3,
   0x86983a8434a28c21a00ea10cfa3708679d1843300dc219674610c803708624d184300198217614610ba970,
   0x8755cf043aaa8c21d013c10e7fa308730018436428c21b1d4810d86a3086b4d204359a8c21a814810d3aa3,
   0x87ad51843cc20021e514610f00810877d01843b668c21da00610ec8a30876101843aca8c21d613c10eaea3,
   0x8840210441fc38220ed46110520e08827518440003821fef4610fe023087e651843ec05c21f154610f706a,
   0x88a8268445228c2226c2411135a308880090443ea8c221e104110e9a3088684104433a8c2219a84110c3a3,
   0x89442d844a1e8c22500b611242a3089099f84484a8c224007e111f5a3088f0bf8447828c22300f811177a3,
   0x898015044bea8c225e0fc112eba3089583f044aaa8c2253eb61129ea308947ad844a3a8c22514b611289a3,
   0x899a95044cd28c226645411331a30899515044ca68c226265411311a30898795044c368c2260a5411304a3,
   0x89ac51844d5ca8226a346113502a089a751844d2ca82269346113472a089a2d1844cf0a822677421133aa3,
   0x89c7d1844e3aa822719461138baa089c551844e02a8226eb46113702a089b6d1844d98a8226c9461135d2a,
   0x89eb51844f32a82279746113c7aa089e351844f16a82278746113c2aa089e0d1844edea82276d4611390aa,
   0x8a6d51845342502299146114809408a315184517584228b9461140061089f1d1844f86a8227b346113d7aa,
   0x8b5d51845a022022cdb46116605808b2d518459415c22c8b46116005708aef518456e1f422b6d46115807d,
   0x8c1e518460007822e8f46117300208b9651845c740822e3746117000208b7251845b417022d9546116c088,
   0x8c8c0e84645e8c2322a3a11914a308c860e84642a8c232123a11907a308c800e8463fe68231e746118a09a,
   0x8ced2f0467628c23354bc119a8a308cd02f04656a8c232a03a11947a308c9d8e8464e68c2326e3a11936a3,
   0x8db451846d81f0236154611b001c08d7cd1846b01b0235602611aa3a308d28418469228c2340140119e5a3,
   0x8e36d1847140302388d4611c380c08e1bd184702830238134611c000c08dfd51846fc2a0237c54611bc0a8,
   0x8e9bd184742ca023a154611d082808e83d1847400a02396f4611ca95108e545184724944239214611c7051,
   0x8eb4d184759c9c23acd4611d602708ead51847540a023a914611d3f2808e9f518474f0a023a774611d3a28,
   0x8ef551847782b823bb94611db0ae08ed5518476809c23b334611d932708ec9518476409c23b1f4611d6a27,
   0x8ff951847f022c23f634611fb04a08fadd1847cf8f023e774611f123c08f88d1847c00f023df34611ee04e,
   0x98001084bfce8c25f203212544a3092404e8491d68c248e13a1246fa3092004e848e6a8c240013a11fff8b,
   0xb5302c85a97e8c2d480b216a39a30b400040584ea8c2c2014a14647a30a2001a050fee8c268c04213456a3,
   0xb5a35185ac00d42d5ed4616af0090b5775185ab40242d5954616ac0950b55fd185a9c2542d4dcb216a6aa3,
   0xb74dd185b901482daf54616d40a60b5c85185adf4d42d6f14616b63350b5b15185ad6cd42d6b54616b5035,
   0xb7f0b185bf82302df414616f8f720b7c45185bd3dc82de974616f00720b76a5185baeeac2dd734616ea0ab,
   0xc6c04606347e8c31a011818cff400c66b51862c01002e0011816ff7a30b7f81785bf968c2dfc88016fe22f,
   0xd8991986c48e8c36240761b001330d8001d86bffe8c35ffa761affca30d7fa9d86bfd28c35fe07618df3a3,
   0xde381006f1ae8c37800401b2fca30d8b83186c5a28c362c8761b156a30d8aa9d86c54e8c362a0661b133a3,
   0xe75a5187340288399fb461cc00a20de525186f2828837938401bc9aa30de481006f2268c37900401bc7da3,
   0xe87b518740028839f89461cf50a20e7a3d1873cc28439e5d461cf00a10e778d1873b828839da3461cebaa2,
   0xe8f5d18746ba883a355421d18ca20e8c2d087460e883a2f7421d16aa20e8b3d08744a6883a24f461d100a2,
   0xea2ad1875002883a6f3461d360a20e9abd1874c02883a5e9461d2e0a20e96a51874b02883a48d461d2002b,
   0xea5d518752ba883a95b461d4a9a20ea53d1875296883a947461d4a2a20ea505187527a883a93b461d456a2,
   0xea8ed187545a883aa2b461d50da20ea85d187541e883aa0d461d4c5a20ea62518752f6883a979461d4bba2,
   0xeb535187554a883aaa3461d54aa20eaa3d187551a883aa8b461d540a20ea9fd18754ee883aa75461d51ea2,
   0xef92a2877c7e8c3be008a1dab0a30ed50bd076a828c3b536f41da8ca30ec003d075f3a883af99461d6a8a2,
   0xf0180d8780ae8c3c04c4c1e025a30f0119307808a8c3c0364c1e019a30f0041307801e8c3c0004c1df2ba3,
   0xf1484b0785428c3c29c6c1e14aa30f0a01b0784fa8c3c2606c1e12da30f0801b0782428c3c11e361e06ea3,
   0xf360568798028c3cbff4e1e5fba30f2e8538793ea8c3c9a0ba1e300a30f17fcd878bea8c3c581361e2afa3,
   0xf3f812079fbe8c3cfda481e7eca30f3f412079f9e8c3cfc0481e700a30f37f56879bda8c3cdc15a1e6dfa3,
   0xf638d107a5828c3d2bc001e95aa30f4a80007a5328c3d200001e8d7a30f463a987a3168c3d000a61e7ffa3,
   0xf7138187b8968c3dc48061ee23a30f7108187b8828c3dc0a061ee04a30f7000187b4fa8c3da03441ecb5a3,
   0xf7238187b90e8c3dc84061ee3ca30f71d8187b8ea8c3dc72061ee38a30f71a0187b8ce8c3dc52061ee28a3,
   0xf72b8187b9568c3dca8061ee53a30f7288187b9428c3dc9a061ee4ca30f7258187b92a8c3dc92061ee48a3,
   0xf7320187b98e8c3dcc2061ee60a30f72f8187b97a8c3dcba061ee5ca30f72d8187b96a8c3dcb2061ee58a3,
   0xf7400187b9fe8c3dcfc061ee7da30f73c8187b9e28c3dce8061ee73a30f7360187b9ae8c3dcce061ee65a3,
   0xf8005107bbca8c3dde0061eebca30f7558187baaa8c3dd4a061eea4a30f7508187ba728c3dd16061ee8aa3,
   0xf8805107c3da8c3e1a3441f0d0a30f860d107c3028c3e163441f0afa30f8505107c2528c3e061441f02ca3,
   0xf9305107c94a8c3e4a1441f249a30f9205107c8f28c3e421441f203a30f900d107c800cc3e3cd441f1aea3,
   0xfbf85107dfb28c3efc1441f7daa30fb805107dbf68c3ede1441f6eda30fb6e5107db668c3e601441f266a3,
   0xfc585107e2ba8c3f121441f888a30fc305107e16a8c3f0a1441f848a30fc085107e0328c3f001441f7f1a3,
   0xfd405107e9f68c3f4e1441fa6ea30fd305107e9628c3f201441f8d9a30fc685107e30a8c3f181441f8bca3,
   0xfd805107ebe68c3f5df441faeba30fd6fd107eb768c3f59b441fac9a30fd645107eb1e8c3f51d441fa8ba3,
   0x175f8178baf868c59d605e2ceaea315c10178ae07a8c54e005e2a6e0a3100001787efee8c3f729441fb93a3,
   0x7008050b802028dc004144e0002a370000d10cd1ea8c626a05e3134ba318000178be87a8c5f0005e2ee5ea3,
   0xe01f0a3]

-- The code points at which being an emoji flips, twelve to a word of 21 bits each.
def emojiFlips : List Nat :=
  [0x101e8080f00015e000ae000550002a40007400030000158000a80004800023,
   0x118e008c6804356021a9010cd0086500427402139010918084880409402049,
   0x12d60096a804986024c2011fd808fe0047e8023e9011e8008f3c0465202328,
   0x130900984404c1e0260e0130280980004bfe025fb012e080970004b6e025b6,
   0x131380989804c48026220131080988004c3c0261d0130c80986004c2c02614,
   0x132a00992004c86026420132080990004c7602638013180098b804c560262a,
   0x13400099f804cf80267b013348099a004cce026650133200998c04cc20265f,
   0x1356009aa804d50026a701351009a8004d3a0269b0134d009a6404d3002692,
   0x1369009b4404da0026ce01364809b2004d8c026c40135f809af404d64026b0,
   0x1381809c0804dfc026fd0137d809bdc04dec026f001375809ba404daa026d3,
   0x138b809c5804e2a0271401389809c4804e200270f01387009c2004e0c02705,
   0x13a4009d1c04e8a027440139a809ccc04e520272801391009c8404e3c0271d,
   0x13cc009e5404eca02763013ac009d5c04eac02753013a7809d3804e9a0274c,
   0x158e80ac6c0561002b050149b00a4d004f80027bf013d8809ec004f44027a1,
   0x194d00ca6406530032970181f00c0f40606203030015ab00ad54056a202b50,
   0xf8cd87c6443e31e1f18e0f8c007c5f83e2e41f1700f86807c33c3e00a1f004,
   0xf92907c9403e4761f2320f91807c8bc3e4361f21a0f90187c8043e4001f1e6,
   0xf9fb07cfcc3e7e21f39e0f9ce07ce643e7301f3960f9ca07cc903e6441f300,
   0xfabd87d5cc3eae21f56f0fab407d5403ea9e1f5490fa9f07d3fc3e9fc1f3f7,
   0xfad487d6a03eb4c1f5a40facb87d6543eb221f5900fac707d6283eb101f587,
   0xfaf107d7843ebbe1f5dc0faea07d7443eb8a1f5c20fade87d6f03eb661f5b1,
   0xfb6307da003eca01f5fa0fafa07d7cc3ebe01f5ef0faf487d7a03ebc81f5e3,
   0xfb7887dbc03edda1f6eb0fb7507dba43edcc1f6dc0fb6c87db543eda61f6cb,
   0xfd0007e51c3f28c1f93c0fc9d87e4303efe21f7f00fbf607df803edfa1f6f3,
   0xfd7587eb7c3f5ba1facd0fd6487eb203f58e1fa8e0fd4587ea003f4fa1fa70,
   0x3f5f21faef]

def mathFlips : List Nat :=
  [0x568002b0000fe0007e0003e8001f0000be0005e0001f8000f0000580002b,
   0x1f9000fc0007ac003d5001e9800f40001f0000f70006c00035c00164000b1,
   0x102280811004082020400101a8080c80402e0201600304801818007ee003f4,
   0x1071008384041ba020d001047808228040fe0207a01032808184040a602052,
   0x108b008454042280210a0108400841c0420602102010780083ac041ce020e5,
   0x109c8084cc042640212f010970084b00425402128010928084900423c02118,
   0x10dc0086d804364021b0010d78086a40435002190010a600852c042940213c,
   0x1191008c800461802308011800087d0043cc021e4010ef008774043b8021bc,
   0x12d1009680047c6023dc011e8808f4004770023b7011db008e6c046fa0237c,
   0x12f180978804ba8025cf012e600972804b90025c6012e10096f004b70025ae,
   0x132180990804c82026400130380981404c00025f8012f680979c04bca025e4,
   0x15a680ad1c0568a02b300158000a40005000027c0013380099b404cc802660,
   0x7f9e83fcf01fe3e0ff1c07f8603fc2c1fcd20fe6807f3383f9841f6540fb29,
   0x86c80436381ffda0ffe907ff183ff881febe0ff5e07fae83fd701fe7e0ff3e,
   0xea538752943a9461d4a20ea500752783a93a1d4560ea2a87500039de21cef0,
   0xea8587541c3aa0c1d4c50ea620752f43a9781d4bb0ea5d0752b83a95a1d4a9,
   0xeaa38755183aa8a1d5400ea9f8754ec3aa741d51e0ea8e8754583aa2a1d50d,
   0xf71007b8143dc081ee000ec00075f383af981d6a80eb530755483aaa21d54a,
   0xf71d07b8e43dc701ee340f71987b8a43dc501ee270f71287b8903dc461ee21,
   0xf72807b9343dc981ee4b0f72507b9243dc901ee470f72187b9083dc781ee3b,
   0xf72f07b9743dcb81ee5b0f72d07b9643dcb01ee570f72a87b9503dca61ee51,
   0xf73c07b9d03dce61ee6c0f73587b99c3dcca1ee640f73187b9843dcc01ee5f,
   0xf75507ba943dd481eea10f74e07ba2c3dd141ee800f73f87b9f83dcfa1ee79,
   0x3f1b21f8d00f77907bbc03dd781eeab]

end DatabaseSchema.Text
