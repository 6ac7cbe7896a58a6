namespace DatabaseSchema.Text

-- Where each stretch of one general category begins: the code point times 32 plus the category's
-- place in the list of categories, twelve to a word of 26 bits each, least first.
def categoryStarts : List Nat :=
  [0x17440005ac0001644000572000154400052e00014340004b1000124c0004310001058000019,
   0x3084000c140002fac000bd40002eb8000b910002db40008200001fc40007920001d44000608,
   0x54d400151400053c40014d5000514c0014310005058000ff90003f48000fae0003e48000f6d,
   0x5b440016a10005a5000164a00058c800161500057d00015d500056e800159200055bc001544,
   0x7c04001ef20006f84001b000006bc80018000005fc400178a0005dc00017440005ca8001714,
   0x8584002140000848400210000083840020c0000828400208000081840020400008084002000,
   0x8b840022c00008a840022800008984002240000888400220000087840021c00008684002180,
   0x918400244000090840024000008f840023c00008e840023800008d840023400008c84002300,
   0x97840025c000096840025800009584002540000948400250000093840024c00009284002480,
   0x9e040027600009d040027200009b840026c00009a8400268000099840026400009884002600,
   0xa4040028e0000a3040028a0000a204002860000a104002820000a0040027e00009f040027a0,
   0xaa84002a80000a984002a40000a884002a00000a7840029c0000a684002980000a584002940,
   0xb084002c00000af84002bc0000ae84002b80000ad84002b40000ac84002b00000ab84002ac0,
   0xb684002d80000b584002d40000b484002d00000b384002cc0000b284002c80000b184002c40,
   0xbd04002f00000bb84002ec0000ba84002e80000b984002e40000b884002e00000b784002dc0,
   0xc604003120000c4040030c0000c284003080000c184003020000bf04002fa0000be04002f60,
   0xd184003440000d0840033e0000cf04003380000cc840032c0000ca84003260000c9040031c0,
   0xda04003620000d8040035c0000d684003580000d504003520000d4040034c0000d284003480,
   0xe3800038c1000e288003880000e0100037a1000de00003764000dc840036e0000db040036a0,
   0xe980003a41000e880003a01000e7800039c1000e680003981000e588003940000e484003902,
   0xf000003be1000ef00003b81000ed80003b41000ec80003b01000eb80003ac1000ea80003a81,
   0xf600003d61000f500003d21000f400003ce1000f300003ca1000f200003c61000f100003c21,
   0xfd84003f40000fc84003ec0000fa84003e80000f984003e42000f880003de1000f700003da1,
   0x103840040c0001028400408000101840040400010084004000000ff84003fc0000fe84003f80,
   0x10984004240001088400420000107840041c0001068400418000105840041400010484004100,
   0x10f840043c00010e840043800010d840043400010c840043000010b840042c00010a84004280,
   0x11584004540001148400450000113840044c0001128400448000111840044400011084004400,
   0x11f840047a00011e040047400011984004640001188400460000117840045c00011684004580,
   0x127840049c000126840049800012584004940001248400490000123840048600012104004820,
   0x177d0005dc300176d0005d8300172d0005c0300169500058c300161500056030014b04005284,
   0x1bd84006f43001bc74006ee1001bb00006eb4001ba0c006e61001b900006e21001b800006005,
   0x1c8040071c0001c6f4007180001c5f4007100001c3c40070c0001c25000701d001bf80006fd1,
   0x1ed84007b40001ec84007b00001ea84007a40001e8040079e0001d604007460001d174007220,
   0x1f384007cc0001f284007c80001f184007c40001f084007c00001ef84007bc0001ee84007b80,
   0x1fb80007ed2001fa84007e80001f784007dc0001f684007d80001f584007d40001f484007d00,
   0x23300008ca10023200008c610023100008c210023000008601001fe80007f61001fc80007f01,
   0x23900008e210023800008de10023700008da10023600008d610023500008d210023400008ce1,
   0x23f00008fa10023e00008f610023d00008f210023c00008ee10023b00008ea10023a00008e61,
   0x247840091c000246840091800024584009140002441c00906500241540090210024000008fe1,
   0x24d840093400024c840093000024b840092c00024a8400928000249840092400024884009200,
   0x253840094c00025284009480002518400944000250840094000024f840093c00024e84009380,
   0x25984009640002588400960000257840095c0002568400958000255840095400025484009500,
   0x25f840097c00025e840097800025d840097400025c840097000025b840096c00025a84009680,
   0x26604009960002650400992000264040098e000263040098a000262040098600026104009800,
   0x26c84009b000026b84009ac00026a84009a800026984009a400026884009a0000267040099a0,
   0x27284009c800027184009c400027084009c000026f84009bc00026e84009b800026d84009b40,
   0x27884009e000027784009dc00027684009d800027584009d400027484009d000027384009cc0,
   0x27e84009f800027d84009f400027c84009f000027b84009ec00027a84009e800027984009e40,
   0x2848400a100002838400a0c0002828400a080002818400a040002808400a0000027f84009fc0,
   0x28a8400a280002898400a240002888400a200002878400a1c0002868400a180002858400a140,
   0x2908400a4000028f8400a3c00028e8400a3800028d8400a3400028c8400a3000028b8400a2c0,
   0x2968400a580002958400a540002948400a500002938400a4c0002928400a480002918400a440,
   0x2c6d400b17d002c53000b131002b00400ab51002ac8c00aafd002988000a61d002978400a5c0,
   0x2e47400b8e5002e34400b885002e1c400b825002e04400b7e5002df3000b225002c87400b1f3,
   0x3081400c1d5003064400c17300304c400c0d2003006800bebd002f9c400bde4002f5f400ba04,
   0x3389000ce05003371000cd51003302000c965003209000c803003101000c3b10030e6800c371,
   0x3782000ddc4003751400dd35003739400dca30036f9400dbd50036ee800dac50036a9000da91,
   0x3a69000e97d003981400e244003889400e20400387e800e1dd003804400dfe40037ed400df44,
   0x3fe9400ff7d003fd0c00fef1003fb5400fe83003f59400f944003e02000f65d003d89000f4c5,
   0x41ff40106110041774010525004140c0104a5004120c0103650040d0c0102c5004001000ffd3,
   0x4497401121a00444900111140043810010d7d0043010010bfd0042f44010b9d0042c94010804,
   0x49e900127850049d9801274500482100120660047194011c5a004651401192300450100112e5,
   0x4b844012cc8004b244012c45004ac10012a25004a8100129c6004a694012926004a0940127c6,
   0x4d51001353d004c99001323d004c7900131bd004c29001309d004c118013025004b910012e23,
   0x4e4f40138e6004e2f4013825004df180137a4004de1401375d004db1001367d004d91001363d,
   0x4f320013c9d004f114013be4004ef74013b84004ec74013ae6004e7f40139c4004e694013966,
   0x502740140660050094013ffd004ff14013fb1004fe10013f73004fd54013e8a004f94c013e04,
   0x51bf40146a40051a7401464400518f401454400514f401426400508f40141e400505f40140a4,
   0x528940149dd005259401493d005239401487d00520940147c60051ef40147850051d74014704,
   0x54094014efd0053b44014ea50053910014e050053320014bfd0052f10014bbd0052c90014a5d,
   0x55a7401564400558f401554400554f401526400549740151e400547740150a40054274015066,
   0x56694015966005657401592600563940158dd00560940157c60055e900157850055d740156a4,
   0x57d14015f240057974015e330057844015cc80057274015c450057010015a3d00568100159dd,
   0x598f401654400594f401626400588f40161e400586f40160a40058274016046005809401601d,
   0x5a3980168bd005a0940168060059f940167c60059e900167850059d740166a40059a74016644,
   0x5b274016c45005af90016bdd005ae10016b1d005ab98016aa5005a7740169a5005a59801693d,
   0x5c8f40171c4005c5f40170a4005c274017064005c114016f1d005b928016e24005b854016cc8,
   0x5d5f4017504005d2f4017464005d0740173c4005cef4017384005cdf4017324005cb74017244,
   0x5e8100179dd005e694017946005e4f40178c6005e1f4017826005e0140177c6005dd740175c4,
   0x602140180260060014017f7d005fd54017f33005f9d4017e0a005f320017b1d005eb98017a3d,
   0x620980187c50061e900187850061d7401854400614f401824400608f40181c400606f40180a4,
   0x63010018bdd0062e10018b7d0062c10018afd0062a940189dd006251401893d00623140188bd,
   0x6429001909100641180190250064010018ff50063c28018ef10063874018cc80063274018c45,
   0x65f180197a40065e1401975d0065a9001969d006551001953d006491001923d00647100191bd,
   0x66e10019afd0066a980199dd006661401994600664f40198e600663140198bd00660180197e5,
   0x6821001a0460068014019e9d0067998019e240067874019cc80067274019c450067010019bfd,
   0x6a51801a93d006a31801a8bd006a09401a7c60069e9001a765006891001a23d006871001a1bd,
   0x6b82801acc8006b27401ac45006af9001ab0a006ab9801aa84006a87401a9f5006a71001a9a5,
   0x6de7401b664006d97401b344006cbf401b0a4006c27401b046006c09401b01d006bd1001af35,
   0x6ec1801bafd006eb1401babd006e91401b9e6006e5f401b945006e3f401b804006df7401b7a4,
   0x71fcc01c77d0071a1401c644007189401c024006faf401be91006f91801be1d006f32001bc1d,
   0x7431001d0bd007421001d07d007409001cb9d0072d4401ca0800727c401c8e5007230c01c804,
   0x7601001d7dd0075e9001d685007591001d625007539001d4dd007529001d49d007461001d17d,
   0x7824401e035007801001dc1d0076e1001db5d007682001d9fd007641401d8fd007630c01d8bd,
   0x79c5401e6e50079b5401e6a50079a5401e54a007902001e3550078c1401e2b50078a4401e275,
   0x7bf9801ee25007b6f401e924007a47401e8040079f1801e7ae0079e3401e76e0079d3401e725,
   0x7e6f401f8f5007e31401f7d5007def401f325007cc7401f1a5007c41001f0c5007c2c401f005,
   0x81c9402070600819140206260081694020566008001001fb7d007ecc401fab5007e84401f9d5,
   0x83118020c240082f14020b440082c14020ac6008281002095100820200207e40081e94020766,
   0x847980211c400846940210e600842940210660084114020ea40083894020dc40083398020ca4,
   0x87dc4021a0100867740219a000864740218e000863740214000084f540213a50084d18021208,
   0x92f74024b440092cf4024b040092bf4024a04009277402494400924f40220040087e84021f83,
   0x960f40258040095ff40257040095b7402564400958f4025204009477402514400944f4024c04,
   0x9b044026ba5009adf40263040098b7402624400988f4025b040096bf40259040096374025844,
   0xb36d402802400a0030027fdd009fc04027edd009d00002735d009c854027004009bef4026d2a,
   0xb7cf402de2400b772402dd7100b501002d3bd00b4e3802d36d00b409002d01600b379002cdd1,
   0xbaa7402ea4500ba01002e6fd00b9ac402e68600b991402e3e400b8b7402e2a600b891402e004,
   0xbe31402f7c600bdb9402f6c600bda1402f00400bba7402ee4500bb8f402edc400bb6f402ec04,
   0xbf82802fd5d00bf02002fbdd00bee9402fb8400bedcc02fb1100beb8c02fa9100be49402f8e6,
   0xc221003086300c101003035d00c08200301e500c076803016500c03c40300cc00c004402ff5d,
   0xc90140323fd00c8010031edd00c581003157d00c551003152500c43900310a500c4010030f3d,
   0xca24403283d00ca05403279d00c9c9403266600c991403260600c967403252600c9394032466,
   0xcedf4033b4a00ce82003395d00cd81003359d00cc010032ebd00cb810032ddd00ca8100328c8,
   0xd2c14034ae600d2b14034aa600d10100343d100d0e7403436500d0c980342e500d0010033bd5,
   0xd457403500800d3f94034fbd00d3994034da600d3294034c6600d3114034c2600d3014034bfd,
   0xd7674035c0500d6f740357e500d5f1c03560500d577403551100d538c03541100d4d74035208,
   0xda29003686600da1140367a600d9e1403676600d9b140366a600d9a140360a400d8218036005,
   0xdd09803706400dc11803700500dbec4036e9500db594036c3500dad44036a0800da7440369bd,
   0xdf518037d0500df398037cc500ddd1003760800dd71003756500dd51803750500dd318037445,
   0xe1c740386c500e1a1803858500e121803800400dfe44037e9d00df918037de500df718037da5,
   0xe45f403914100e448003900100e3f44038f0300e2d10038a0800e269003895d00e2020038771,
   0xe7694039d2400e7114039c2600e6a14039a7100e681403991d00e60440397a000e5df4039200,
   0xebc8403af0300eb58403a58300e8004039f7d00e7d10039f0500e7b98039ea400e7a14039dc4,
   0xf048403c10000f038403c0c000f028403c08000f018403c04000f008403c00000ee01403b363,
   0xf0a8403c28000f098403c24000f088403c20000f078403c1c000f068403c18000f058403c140,
   0xf108403c40000f0f8403c3c000f0e8403c38000f0d8403c34000f0c8403c30000f0b8403c2c0,
   0xf168403c58000f158403c54000f148403c50000f138403c4c000f128403c48000f118403c440,
   0xf1c8403c70000f1b8403c6c000f1a8403c68000f198403c64000f188403c60000f178403c5c0,
   0xf228403c88000f218403c84000f208403c80000f1f8403c7c000f1e8403c78000f1d8403c740,
   0xf288403ca0000f278403c9c000f268403c98000f258403c94000f248403c90000f238403c8c0,
   0xf2e8403cb8000f2d8403cb4000f2c8403cb0000f2b8403cac000f2a8403ca8000f298403ca40,
   0xf348403cd0000f338403ccc000f328403cc8000f318403cc4000f308403cc0000f2f8403cbc0,
   0xf3a8403ce8000f398403ce4000f388403ce0000f378403cdc000f368403cd8000f358403cd40,
   0xf408403d00000f3f8403cfc000f3e8403cf8000f3d8403cf4000f3c8403cf0000f3b8403cec0,
   0xf468403d18000f458403d14000f448403d10000f438403d0c000f428403d08000f418403d040,
   0xf508403d40000f4f8403d3c000f4a8403d28000f498403d24000f488403d20000f478403d1c0,
   0xf568403d58000f558403d54000f548403d50000f538403d4c000f528403d48000f518403d440,
   0xf5c8403d70000f5b8403d6c000f5a8403d68000f598403d64000f588403d60000f578403d5c0,
   0xf628403d88000f618403d84000f608403d80000f5f8403d7c000f5e8403d78000f5d8403d740,
   0xf688403da0000f678403d9c000f668403d98000f658403d94000f648403d90000f638403d8c0,
   0xf6e8403db8000f6d8403db4000f6c8403db0000f6b8403dac000f6a8403da8000f698403da40,
   0xf748403dd0000f738403dcc000f728403dc8000f718403dc4000f708403dc0000f6f8403dbc0,
   0xf7a8403de8000f798403de4000f788403de0000f778403ddc000f768403dd8000f758403dd40,
   0xf880403e10000f7f8403dfc000f7e8403df8000f7d8403df4000f7c8403df0000f7b8403dec0,
   0xfa80403e9dd00fa40003e8dd00fa00403e70000f980403e50000f900403e3dd00f8c0003e2dd,
   0xfbf7403ee0100fb40003ec0100faf8003ebdd00fae8003eb9d00fad8003eb5d00fac8003eb1d,
   0xfded003f78200fdc0003f6c100fdaf403f60100fd40803f40100fcc0803f20100fc40803f001,
   0xfec0003fac100fea7403fa0100fe6d003f98200fe40003f8c100fe2f403f84100fdfd003f7c1,
   0xffed003ff8200ffc0003fec100ffaf403fe4100ff87403fdb400ff40003fc0100feed003fb9d,
   0x100fbc0403cd0100ec004036f0100d340403300100c3c0402d1010083004017a010005803fffd,
   0x1022480408310101fac0407710101d4004072f01018440405f60101568040538010145c040411,
   0x103828040cda01032f4040c1a0102fd8040ab10102a2c040a7101029480408f101023380408ad,
   0x1047f40411ce01046b40411520104028040fe30103f38040fad0103d48040e8a0103974040e23,
   0x10810004201501078f4041ca5010711c041c250106e9c041a0501061740414130104ef4041203,
   0x108c480422d50108a800422950108984042200010870404216001085040421150108380042075,
   0x1098000425e1010975404254001094d404250001093d40424c001092d40424800108f54042320,
   0x10a654042972010a5540428c1010a2800428120109f000427810109d540427210109a90042681,
   0x10cad4043212010c674043155010c4a80430a9010c204043060010b024042a0a010a7d40429c1,
   0x10e8540439d2010d7d40435d2010d3d40434d2010d254043472010d0d4043412010ce54043352,
   0x11904804619501185b804614d01184b804610d0118054043e92010ead4043a92010e9d4043a52,
   0x12205404855d011f154047b92011da54047372011bed4046f9201195d404654e01194b4046455,
   0x1337c804c015012fc4804b855012e0c804b715012dbc804a0150127528049395012302804897d,
   0x13b93404ee2e013b83404edee013b73404edae013b63404ed6e013b53404ed2e013b43404ce15,
   0x13f43404fcee013f33404f8f2013e33804f8ad013e04804f295013bb2804eeae013ba3404ee6e,
   0x14c23805306d0148048050015013f84804fdee013f73404fdae013f63404fd6e013f53404fd2e,
   0x14c8380531ed014c7380531ad014c63805316d014c53805312d014c4380530ed014c3380530ad,
   0x14ed34053b2e014ec34053332014cc380532ed014cb380532ad014ca3805326d014c93805322d,
   0x15bb54056e9d015a6d40568f2015a2d40566120158054053fd2014feb8053f8d014ee48053b6e,
   0x163604058d600163504058d200163404058ce00163284058c400163084058c000161804058000,
   0x16420005906101641000590210163f00058f830163b04058ea00163984058e400163884058da0,
   0x1648000591e101647000591a10164600059161016450005912101644000590e101643000590a1,
   0x164e000593610164d000593210164c000592e10164b000592a10164a000592610164900059221,
   0x1654000594e101653000594a10165200059461016510005942101650000593e10164f000593a1,
   0x165a00059661016590005962101658000595e101657000595a101656000595610165500059521,
   0x1660000597e10165f000597a10165e000597610165d000597210165c000596e10165b000596a1,
   0x166600059961016650005992101664000598e101663000598a101662000598610166100059821,
   0x166c00059ae10166b00059aa10166a00059a610166900059a2101668000599e101667000599a1,
   0x1672d4059c610167100059c210167000059be10166f00059ba10166e00059b610166d00059b21,
   0x168004059fd10167ea8059f310167a74059e610167900059de50167704059da00167604059d60,
   0x16c01005afe5016b8f405ae11016b78c05ad1d016981005a5dd016968405a51d016938405a4dd,
   0x16e41005b8fd016e01005b7fd016dc1005b6fd016d81005b5fd016d41005b4fd016d01005b2fd,
   0x17034405c0b0017023c05c070017013c05c011016f01405bbfd016ec1005bafd016e81005b9fd,
   0x170ec005c38f0170dc405c34c0170c4405c2ec017074405c1b0017063c05c171017054005c12f,
   0x17154405c52e017143405c4ee017133405c4ae017123405c46e017113405c430017103c05c3d1,
   0x172b3805caad017294405ca1501721c405c84d01720c405c80c0171e4405c74c017184405c5e3,
   0x177a7405d3750174d7405d0150172f7405cbac0172e3805cb6d0172d3805cb2d0172c3805caed,
   0x18053406012e01804340600e901803100600a30180254060031018005805fe15017eb7405e015,
   0x180bb80602cd0180ab806028d018095406022e01808340601ee01807340601ae018063406016e,
   0x1818300605c6018151406042901810540603ce0180eb406038c0180db806034d0180cb806030d,
   0x184dd00613250184bf406082401820740607d50181ec40607840181d8c0607090181b54060623,
   0x18c7f406262401898740620a40188074061fe40187e0c061f71018509006140c0184f900613a3,
   0x19155406440a0190ff4064015018f810063df5018f374063815018d0100632d5018c928063215,
   0x500a8c09c004026e054068004019605406562a019455406500a0193054064a2a019285406490a,
   0x53102014c20405306c414c1830528010149fd10527c0c149a0405263f414921505246f41402c4,
   0x53248414c900053238414c8c0053228414c880053218414c840053208414c800053167414c544,
   0x532a8414ca80053298414ca40053288414ca00053278414c9c0053268414c980053258414c940,
   0x53308414cc000532f8414cbc00532e8414cb800532d8414cb400532c8414cb000532b8414cac0,
   0x53368414cd80053358414cd40053348414cd00053338414ccc0053328414cc80053318414cc40,
   0x53420014d061053410014d021053400014cfe30533f4414ce8505339c414ce07053379414cdc4,
   0x53480014d1e1053470014d1a1053460014d161053450014d121053440014d0e1053430014d0a1,
   0x534e0c14d3610534d0014d3210534c0014d2e10534b0014d2a10534a0014d261053490014d221,
   0x53920014e461053910014e4140538b8c14e0140537c7414de51053781414dcc9053501014d3c5,
   0x53990014e5e1053970014e5a1053960014e561053950014e521053940014e4e1053930014e4a1,
   0x539f0014e7a10539e0014e7610539d0014e7210539c0014e6e10539b0014e6a10539a0014e661,
   0x53a50014e921053a40014e8e1053a30014e8a1053a20014e861053a10014e821053a00014e7e1,
   0x53ab0014eaa1053aa0014ea61053a90014ea21053a80014e9e1053a70014e9a1053a60014e961,
   0x53b10014ec21053b00014ebe1053af0014eba1053ae0014eb61053ad0014eb21053ac0014eae1,
   0x53b70014eda1053b60014ed61053b50014ed21053b40014ece1053b30014eca1053b20014ec61,
   0x53c10014f021053c00014efe1053be8014ef81053bd8014ef41053bc8014ee21053b80c14ede1,
   0x53c79014f1c1053c68014f181053c58014f134053c40c14f0e1053c30014f0a1053c20014f061,
   0x53ce8414f380053cd8414f340053cc8414f300053cb8414f2c0053c98414f240053c88414f200,
   0x53d48414f500053d38414f4c0053d28414f480053d18414f440053d08414f400053cf8414f3c0,
   0x53de8414f780053dd8414f740053dc8414f700053db8414f6c0053da8414f600053d78414f540,
   0x53e68414f960053e50414f920053e40414f880053e18414f840053e08414f800053df8414f7c0,
   0x53ec8414fb00053eb8414fac0053ea8414fa80053e98414fa40053e88414fa00053e78414f9c0,
   0x54011414ff64053fd0414ff03053fb9014fec1053fa8014fe23053eef414fb80053ed8414fb40,
   0x5418281505bd054161415051505413981504a5054119815018405405941500e40540314150064,
   0x5463741518850545a181510440544018150f1d0543a441508040541d741507350541c4c1506d5,
   0x5485101520080547f94151fa40547e44151f640547c44151e440547014151b5d05468201519d1,
   0x54c210153066054c014152fbd054b010152bf1054aa74152a46054a39415260405497441524c5,
   0x54ef44153b5d054e8201539e3054e774153831054df18153785054dd181536c5054da18153665,
   0x55199815462505517981545250550010153ffd054fd10153e08054f390153cc3054f294153c04,
   0x553010154b910552d74154a0805527741549a6055261415488405521941548040551bf41546a5,
   0x555a9015564505558901556050553f10154fa60553e14154f660553d10154ef50553890154e03,
   0x557598155c040556f44155ba30556d9015587d055611015582505560101557c50555c901556e5,
   0x5587f415612405583f41560240557bf4155ec50557a98155e630557910155e110557718155d85,
   0x55b550156d23055b004156b83055add015660105597f415650405593f41564040558bf4156224,
   0x55f774157da5055f618157d71055f498157d05055f318157ca5055f198157804055b804156d9d,
   0x7d37741f200407000701b001b06bfe741af96406be3f41af60406bd274158004055fd74157e08,
   0x7d9bf41f654407d94c81f63e407d8f141f63a407d8c741f626107d83f41f600107d6d741f4e04,
   0x7de9901f787507dd9501f68c407da2f41f686407da1741f680407d9ff41f67c407d9ef41f6704,
   0x7f00141fbfb507efe4c1fbe0407ee8741fb91507ec9101fb21507ea8101fa81507e9fb41fa7ce,
   0x7f1bb41fc6ce07f1ab41fc66b07f18b01fc61107f10141fc35d07f0cc41fc30e07f0bb41fc211,
   0x7f21b41fc84e07f20b41fc80e07f1fb41fc7ce07f1eb41fc78e07f1db41fc74e07f1cb41fc70e,
   0x7f2d381fcb2d07f2c301fca9107f29f41fca1107f26ac1fc93107f24381fc8ed07f22c41fc88e,
   0x7f35441fcd3307f34441fccfd07f32481fcc6c07f31481fcbf107f2f381fcbad07f2e381fcb6d,
   0x7f84b81fe10d07f82c41fe09307f80c41fe01d07f7fe81fdfbd07f3b101fcebd07f38101fcd9d,
   0x7f9e441fe76d07f90801fe3f107f8e481fe35107f88201fe1d107f86b01fe19107f85c81fe151,
   0x7fb0c41fec0e07fafb41febd207faeb81feb9207fadb41fe82107fa0501fe7eb07f9f501fe7ae,
   0x7fe5101ff91d07fe1101ff7fd07fd0101ff3c307fb8901fee0307fb3101fec9107fb1b81fec4d,
   0x7ff4541ffcfd07ff2cc1ffc9507ff1d01ffc5207ff04c1ffbbd07fed101ffb1d07fe9101ffa1d,
   0x801df420050408013f42001a4080067420000407fff741fff9507ffce81ffdfd07ff6d41ffd32,
   0x809a742020ea08081f42020110807df42010040802f74200a0408027742007e40801f74200784,
   0x80e85420343d080d0542033bd080c8542031fd080c65420314a080bcd4202eaa080a0242026f5,
   0x81927420640a0818010205f9d08170a8205c0508168f42054040814ef4205004080ff74203fa5,
   0x81d0102073f1081cf74207004081bdf4206ec5081a81020697d081a524206844081a0a42065a4,
   0x82580020955d08250202093dd08228102085010820000207add081e8a4207a11081e41020789d,
   0x82c5f420af80082bdf420ae00082b7c420ac9d082981020a51d0828010209f9d0826c04209a9d,
   0x82def420b761082dd7420b661082d97420b461082d17420b2e1082cb7420b280082c9f420b180,
   0x83d8f420f0e3083c37420f003083b47420ec04083ab7420e8040839bf420c004082fa7420b804,
   0x841ef42107840841cf42106e40841b7421014408404f42101040840374210004083ddf420f643,
   0x84701021161d08453a82113fd0844010210f2a0843bd4210c040842c28210af10842b742107e4,
   0x84a0102127f10849d742124040848fc421239d0848b282120040847da8211edd0847a10211e7d,
   0x85029421409d0850094214004084e928213a1d084e0282137c4084de2821371d084c010212b5d,
   0x8520282147e50851df42147050851b742143240850c742142a40850a7421420408506142140fd,
   0x856490215915085601021541d0854ea82150040853fc4214faa0853010214b3d085284421493d,
   0x85b010216b0a085ab742168040859cc42166dd0858010215efd0857844215d6a08573f4215ca5,
   0x8659f421900008624f4218004085d87421752a085cef4217331085c974217004085bc28216e7d,
   0x86a79021a9c3086a51021a8080869d7421a608086947421a4850868010219f4a08679f4219801,
   0x87401021cffd087302821b21d086c74821b0dd086b80421ade3086b73021ad25086b37421aa00,
   0x8768d421da11087647421d8c4087628c21d844087597421d604087577421d5ac087559421d55d,
   0x87b81021eb5d087aac421ea2a087a31421e604087947421e4e40878ea821e0040877d1421db3d,
   0x8801902200460880094220006087fbf421fc04087e67421f8aa087d81021f15d087c34421f045,
   0x884118220fe50883b74220ea40883994220e240883814220cc808829282209dd08823c4220705,
   0x8867742219ba08861f42218450885f442217ba0885dc42217250885b982216650885818221064,
   0x88a0442226c80889af42225a508896182224e508881902220050887d74221e0808874f4221a04,
   0x88c190223046088c014222efd088bb10222e91088b994222a04088a4742228e4088a298222884,
   0x88edc4223b44088e8202239e5088e7182239b1088e4942238b1088e0902237e6088db14223666,
   0x891a142246460891794224586089099022425d0890010223ebd088f0a8223c1d088eec4223b84,
   0x89451022513d08944102250fd089401022485d08920942247e40891f142247110891b142246a6,
   0x897820225d7d0897194225c060896f9422560408955742255310894f902253dd08947902251dd,
   0x8998f422654408994f422626408988f42261e408986f42260a408982742260460898014225f5d,
   0x89a4f42268e6089a2f4226826089a0142267c60899e902267650899d742266a40899a74226644,
   0x89b814226dbd089b314226c9d089b118226ba4089ac74226ae6089a8f4226a04089a774226966,
   0x89dd94227706089db902276dd089c8102271fd089c71022719d089c59022715d089c010226ebd,
   0x89e890227a05089e7982279c5089e61822797d089e3982278dd089e29822787d089e11822783d,
   0x8a201822870508a1a98228004089f1f4227c25089ecf4227af1089eb74227a91089e990227a45,
   0x8a3174228be408a2f14228bb108a2e74228b5108a282022897108a23902288c508a2298228845,
   0x8a63902298d108a621022984508a60982297e508a5d9822974508a5c9822966508a5818229004,
   0x8ae0c422b7e508adf1822b78508adc1822b6dd08ad91422b5e608ac010229b5d08a682022991d,
   0x8b221022c83108b1f9422c7c608b1e9422c76608b199422c60608b001022bbdd08aee1422bb04,
   0x8b5b1822d60508b571822d5a508b561822d56508b401022cdbd08b304422cb5d08b282022c8bd,
   0x8b8f1822e3a508b8df422e00408b727422da0808b657422d80808b5d7422d73108b5c1022d6e5,
   0x8ba3f422e80408b9fd422e79108b9d2822e60808b967422e4e508b931822e44508b901822e3e5,
   0x8c79f4231d4a08c702023180108c500023079d08c1dc423072508c1c182305e508c1618230004,
   0x8c9b982326dd08c981823230408c8bf42322a408c8a7423218408c857423212408c83f4231fe4,
   0x8ca8202328fd08ca24423286508ca11823282408ca0182327e408c9f142327a608c9d9423273d,
   0x8cf144233c2408cf014233b8608ced14233b1d08cea14233a2608cd51023351d08cd010232b5d,
   0x8d23942347f108d1d9423474408d1c9823466508d059023402508d0010233cbd08cf218233c64,
   0x8d4f442353a408d4d4423530508d4b9823514508d2e10234b2508d2b98234a2508d281023491d,
   0x8db474236ce608db314236ca608db114236c2608db01423615d08d8044235f3d08d581023547d,
   0x8e1c142386fd08e18142385e608e051023813d08e0010237f5d08df820237c5d08df0c4237804,
   0x8e491423921d08e3910238e1108e36f4238b4a08e28202388dd08e20c423880408e1f942387c6,
   0x8e857423a10408e83f423a00408e5bf42396a508e5a1823964508e589823954508e549823951d,
   0x8ea82023a91d08ea39423a8c408e9f9423a7dd08e9e1423a77d08e9d1423a6fd08e989423a164,
   0x8eca9423b26608ec97423b20508ec7f423b14608eb51023ad3d08eb39023acdd08eb01023ab5d,
   0x8ef57423bc0808eee7423bb4408eec8c23b60408ed57423b40808eccf423b30408ecb9423b2c6,
   0x8f9a1823e24408f88f423e08408f819823e04408f801423df3d08f7bc423dea608f799423dc04,
   0x8fd8f423f60408fadf423eb4508fa82023e87108fa11423e82608fa01423e7c608f9df423e6c5,
   0x923af4248e1109237f4248009091cd7424000408fffc423fe5d08ff0d423fbb308fead423f80a,
   0x9a3010268add09a239426882409a201426861a098001025fe7d097f8c425f204092a274249004,
   0xb520102d473d0b400102c275d0b098202c25a50b095182c23c50b0801028c8fd0a20010287f7d,
   0xb57ac42d5e050b577742d5a040b565742d58080b55ff42d4e040b537442d4d5d0b530202d4bfd,
   0xb5ada82d6b5d0b5a8202d68dd0b5a2d42d68910b5a00c2d67950b59bc42d66050b580102d5edd,
   0xb720002daf5d0b6b8202dadb10b6b58c2da8640b6a00c2d721d0b5be902d6f1d0b5b1902d6c5d,
   0xb7a8102de9e50b7a5f42de0040b76a742dd7610b75cf42dd4000b74df42dd2f10b740282dcc01,
   0xb7f90c2dfe060b7f2f42dfc850b7f18c2dfc510b7f00c2df41d0b7c98c2df1e50b7c4742dea26,
   0xd7fe7435fea30d7fa7435fe030c6f9f431b0040c68ff4319fe40c66b742e00040b7fbf42dfe89,
   0xd8b474362c840d8ab74362aa40d8a9f4362a040d899f43626440d891f43600040d7fff435ffa3,
   0xde4e943793950de4d743792040de44f43790040de3ef4378e040de35f43780040d97e74362e04,
   0xe7705439da3d0e75d5439d69d0e68054399fbd0e67d54399e080e6005437949d0de50683793f1,
   0xe893f43a20150e87b743a00150e7e27439ea150e7a3f439e6050e7977439e0050e778f439de12,
   0xe8d7543a35450e8c6543a30a50e8c1d43a2f650e8b9e83a2da60e8b5543a2ce50e8b2983a2535,
   0xe9b0283a6afd0e980543a5e9d0e970283a5a9d0e960283a48dd0e922d43a48450e900543a3d7d,
   0xea4f003a93bd0ea4e003a90410ea34003a8ac10ea2af43a89c10ea1a003a83410ea00003a6f3d,
   0xea5e743a97610ea5d743a96c10ea57003a95bd0ea54803a94fd0ea52803a947d0ea51003a941d,
   0xea8b003aa2bd0ea86803aa17d0ea83803aa0dd0ea82003a9d410ea68003a98a10ea62743a97a1,
   0xeaa8f43aa9400eaa3f43aa8c00eaa2f43aa8000ea9ff43aa7600ea9d743aa7000ea8f043aa3bd,
   0xeb38003acac10eb1e003ac4410eb04003abdc10eaea003ab7410ead0003ab0c10eab6003aaa41,
   0xeb8b043ae2b20eb7e043adf720eb71003adb810eb6dc83ad8410eb60c83ad5000eb53743ad141,
   0xebd4c83af2000ebc5043af1320ebb8043aedf20ebab003aea010eba7c83ae6c10eb9ac83ae380,
   0xed36d43b47650ed1bd43b40050ec00543af9c80ebe6743af9610ebe5003af8810ebe1c83af541,
   0xef85103be0010ed58743b54250ed50743b53650ed46743b50f10ed42d43b50850ed3b543b4ea5,
   0xf012f43c04650f011743c03650f00cf43c01050f003f43c00050ef95f43be4a10ef8ff43be161,
   0xf0a0203c27dd0f09b8c3c26050f096f43c20040f048743c11e50f037743c06030f015f43c04c5,
   0xf17fcc3c5f5d0f178203c5d850f160103c55fd0f157143c52040f0a8743c29f50f0a7103c295d,
   0xf2ffc43cbf7d0f2f8a03cbe040f2f7143cba040f27d743c9e080f276143c9d630f268103c601d,
   0xf37b743cdea50f378103cddc50f373903cdcc50f372103cdc650f370103cdbfd0f360103cc01d,
   0xf400103cfffd0f3f8103cfdfd0f3f6903cfd9d0f3f4103cfcfd0f3f0103ce01d0f37f8c3cdfc4,
   0xf4af443d2b5d0f4a8203d299d0f4a58c3d28850f491043d20000f46bf43d1a050f463a83d18bd,
   0xf700103da7dd0f697a83da5d50f680a83d96bd0f658a83d96130f656a83d95950f638a83d2c1d,
   0xf71a103dc67d0f714903dc51d0f713903dc4bd0f712103dc47d0f710903dc41d0f702903dc09d,
   0xf725903dc95d0f724903dc91d0f723903dc87d0f721103dc79d0f71d903dc75d0f71c903dc71d,
   0xf72d903dcb5d0f72c903dcb1d0f72b903dcabd0f72a103dca7d0f728903dca1d0f726903dc99d,
   0xf736103dcd7d0f733903dccbd0f732103dcc7d0f730903dcc1d0f72f903dcbdd0f72e903dcb9d,
   0xf750903dd39d0f745903dd15d0f740103dcffd0f73f103dcfbd0f73c903dcf1d0f73a103dce7d,
   0xf850543e129d0f818543e059d0f800543dde5d0f778483dd79d0f755903dd55d0f752903dd49d,
   0xf901f43e3cd50f8d7743e21b50f880283e1edd0f868d43e1a1d0f860d43e181d0f858d43e15fd,
   0xfb6cf43e80150f9fdd03e60150f933743e4c150f929743e4a150f924f43e48150f91e743e4215,
   0xfc06743f00150fbf8f43efe150fbf6743efc150fbed743ee0150fb7ef43ede150fb76f43edb95,
   0xfc61743f18150fc5e743f16150fc57743f12150fc44743f0c150fc2d743f0a150fc24743f0215,
   0xfd63f43f51d50fd45f43f50150fd3ef43f4e150fd37743f4c150fd2c743f20150fc6cf43f1a12,
   0xfdf8203f72950fdc9f43f60150fd7cf43f5df50fd75f43f5bf50fd6ef43f59b50fd64f43f5915,
   0x1772f745d7e04175f0f459d604167577457040415c0f7454e00415370744000040fdfdf43f7f55,
   0x700f875c020057004075c0041a7000175c0003a19a3d74626a04189a5f460000417d0f745f0004,
   0x87fff7600001c7ffff75e0001c]

-- The code points at which membership in the further alphabetic characters flips, twelve to a
-- word of 21 bits each, least first.
def furtherAlphabeticFlips : List Nat :=
  [0x2e300171000b86005c1002e00016fc00b7c005b0001b8000d8c0068c00345,
   0x36e801b5800ce2006700033000196400cb00064b0030d80184000b90005c7,
   0x3d8801e9800e800073000389001c4400ddc006ed00374801b9c00dca006e1,
   0x4700023500113000897004168020a401050008250041200206c0103000816,
   0x4ac002554012a00094e004a68024f8012780093a004820023c0011d4008e3,
   0x4ec00275c0139a009cb004e480271c0138a009be004c2002604012c800962,
   0x5290029440149a00a4b0052480291c0148600a3e00502002804013c8009e2,
   0x566802b2c0159400ac700563002af80150800a810053b0029d4014e400a70,
   0x5a6802d2c0169200b47005a2802cf80160800b010057e802be8015c800ae2,
   0x5e6802f280179200bc6005e1802ef80170600b82005b2002d88016b000b56,
   0x62b8031540189a00c4a006248031180188a00c3e00602803000017b000bd7,
   0x66b8033540199a00cca006648033180198a00cbe00642003204018c800c62,
   0x6a680352801a9200d46006a28034f801a0800d000067a0033cc019c800ce2,
   0x6f000376001bae00dd6006ea80373c01b0800d81006b200358801ab000d57,
   0x75d003ad001d6400eb10072700393401c7600e34007190038c401be800df2,
   0x81b8040ac01f7a00f99007cc003e3401f0800f7100767003b3401d7a00ebb,
   0x83700419c020ca0106200830804178020b4010560081f8040ec0207201038,
   0xb9a005cc802e28017120084f004268021200108f00847004208020ea01071,
   0xc9600648003154018a900c4380621402f92017b600bba005dc802ea801752,
   0xd67806b300358201abf00d3a806984034be01a5500d0e00685c0327201930,
   0xdf9006f9c0375c01bac00dd5006e840370601b8000da2006cd40360a01b00,
   0x5350029a7814cf80a6740170000b780049d4024b600efa80774c0386e01c24,
   0x546302a314151880a8b40544102a200150500a8230540602a02c150060a802,
   0x54f302a794153800a9b4054c202a600152a60a9470549582a498152000a8ff,
   0x555a82aac8155620aab00553f02a9ec1549c0aa4c0552202a90c1546e0aa29,
   0x7d8f83ec78157d60abe30557b02abd4155e00aaeb0555f82aaf8155720aab7,
   0x86b50435a421a5010d24085080428302140e10a0508502042804206f610376,
   0x8841844200220ea11073088230440e022006110000877e843be821d5a10eab,
   0x88c18446002228e111450889984449c22206111000886184430822172110b0,
   0x89210449042247e1123e0891c0448dc2246a1122c088e804473822380111b3,
   0x89ac044d5c2269a1134b089a4844d1c2268a1133e08982044c00225d2112df,
   0x89e7044f3022796113c7089e3044f1422786113c2089e0844ee0226c811362,
   0x8aef04577022b7e115b808adb0456bc22984114b008a2304510c2288411435,
   0x8c9b0464c0230721182c08b95845c7422d6c116ab08b2084590022c7e11630,
   0x8cf0046768233b0119d108ca1846508232821194008c9e8464ec2327211937,
   0x8d4c046a28234b811a5108d1f8468ec2347411a3508d05846804233ca119e4,
   0x8e9b8474c42396e11ca908e540472482387e11c3808e1b8470bc236d011b60,
   0x8ec784762823a9011d4708ea204750c23a8411d3f08e9f0474f023a7611d3a,
   0x8f9d847cd023e0811f0308f81047c0023dee11ef308ecb84764c23b2411d90,
   0xb7f905bfc02df2616f8f0b7c405bd442dea016f4f0b09785847823e8211f3e,
   0xf0158780983c04a1e0230f01107806c3c0321e0080f0038780003793e1bc9e,
   0xf4a407a51c3cdec1e6f50f378079bb83cdce1e6e60f372079b8c3c1201e08f,
   0x3e3141f1700f8b507c5403e2941f130]

def furtherCased : List (Nat × Nat) :=
  [
    (0xaa, 0xaa), (0xba, 0xba), (0x2b0, 0x2b8), (0x2c0, 0x2c1), (0x2e0, 0x2e4), (0x345, 0x345),
    (0x37a, 0x37a), (0x10fc, 0x10fc), (0x1d2c, 0x1d6a), (0x1d78, 0x1d78), (0x1d9b, 0x1dbf),
    (0x2071, 0x2071), (0x207f, 0x207f), (0x2090, 0x209c), (0x2160, 0x217f), (0x24b6, 0x24e9),
    (0x2c7c, 0x2c7d), (0xa69c, 0xa69d), (0xa770, 0xa770), (0xa7f1, 0xa7f4), (0xa7f8, 0xa7f9),
    (0xab5c, 0xab5f), (0xab69, 0xab69), (0x10780, 0x10780), (0x10783, 0x10785),
    (0x10787, 0x107b0), (0x107b2, 0x107ba), (0x1e030, 0x1e06d), (0x1f130, 0x1f149),
    (0x1f150, 0x1f169), (0x1f170, 0x1f189)]

def furtherLowercase : List (Nat × Nat) :=
  [
    (0xaa, 0xaa), (0xba, 0xba), (0x2b0, 0x2b8), (0x2c0, 0x2c1), (0x2e0, 0x2e4), (0x345, 0x345),
    (0x37a, 0x37a), (0x10fc, 0x10fc), (0x1d2c, 0x1d6a), (0x1d78, 0x1d78), (0x1d9b, 0x1dbf),
    (0x2071, 0x2071), (0x207f, 0x207f), (0x2090, 0x209c), (0x2170, 0x217f), (0x24d0, 0x24e9),
    (0x2c7c, 0x2c7d), (0xa69c, 0xa69d), (0xa770, 0xa770), (0xa7f1, 0xa7f4), (0xa7f8, 0xa7f9),
    (0xab5c, 0xab5f), (0xab69, 0xab69), (0x10780, 0x10780), (0x10783, 0x10785),
    (0x10787, 0x107b0), (0x107b2, 0x107ba), (0x1e030, 0x1e06d)]

def furtherUppercase : List (Nat × Nat) :=
  [
    (0x2160, 0x216f), (0x24b6, 0x24cf), (0x1f130, 0x1f149), (0x1f150, 0x1f169),
    (0x1f170, 0x1f189)]

def furtherGraphemeExtend : List (Nat × Nat) :=
  [
    (0x9be, 0x9be), (0x9d7, 0x9d7), (0xb3e, 0xb3e), (0xb57, 0xb57), (0xbbe, 0xbbe),
    (0xbd7, 0xbd7), (0xcc0, 0xcc0), (0xcc2, 0xcc2), (0xcc7, 0xcc8), (0xcca, 0xccb),
    (0xcd5, 0xcd6), (0xd3e, 0xd3e), (0xd57, 0xd57), (0xdcf, 0xdcf), (0xddf, 0xddf),
    (0x1715, 0x1715), (0x1734, 0x1734), (0x1b35, 0x1b35), (0x1b3b, 0x1b3b), (0x1b3d, 0x1b3d),
    (0x1b43, 0x1b44), (0x1baa, 0x1baa), (0x1bf2, 0x1bf3), (0x200c, 0x200c), (0x302e, 0x302f),
    (0xa953, 0xa953), (0xa9c0, 0xa9c0), (0xff9e, 0xff9f), (0x111c0, 0x111c0), (0x11235, 0x11235),
    (0x1133e, 0x1133e), (0x1134d, 0x1134d), (0x11357, 0x11357), (0x113b8, 0x113b8),
    (0x113c2, 0x113c2), (0x113c5, 0x113c5), (0x113c7, 0x113c9), (0x113cf, 0x113cf),
    (0x114b0, 0x114b0), (0x114bd, 0x114bd), (0x115af, 0x115af), (0x116b6, 0x116b6),
    (0x11930, 0x11930), (0x1193d, 0x1193d), (0x11f41, 0x11f41), (0x16ff0, 0x16ff1),
    (0x1d165, 0x1d166), (0x1d16d, 0x1d172), (0xe0020, 0xe007f)]

end DatabaseSchema.Text
