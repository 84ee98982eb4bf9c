set_option autoImplicit false

/-!
The scripts of Unicode 17.0: the runs of code points of one script, each with its first code point
in hexadecimal and the script's code, in ascending order; the characters that several scripts or
another one use, with the codes of these; and the names that each code has, in small letters and
without what keeps their words apart.
-/

namespace OpPolicy.Text

def scriptTable : String :=
  "0Zyyy 41Latn 5BZyyy 61Latn 7BZyyy AALatn ABZyyy BALatn BBZyyy C0Latn D7Zyyy D8Latn F7Zyyy
F8Latn 2B9Zyyy 2E0Latn 2E5Zyyy 2EABopo 2ECZyyy 300Zinh 370Grek 374Zyyy 375Grek 378Zzzz 37AGrek
37EZyyy 37FGrek 380Zzzz 384Grek 385Zyyy 386Grek 387Zyyy 388Grek 38BZzzz 38CGrek 38DZzzz 38EGrek
3A2Zzzz 3A3Grek 3E2Copt 3F0Grek 400Cyrl 485Zinh 487Cyrl 530Zzzz 531Armn 557Zzzz 559Armn 58BZzzz
58DArmn 590Zzzz 591Hebr 5C8Zzzz 5D0Hebr 5EBZzzz 5EFHebr 5F5Zzzz 600Arab 605Zyyy 606Arab 60CZyyy
60DArab 61BZyyy 61CArab 61FZyyy 620Arab 640Zyyy 641Arab 64BZinh 656Arab 670Zinh 671Arab 6DDZyyy
6DEArab 700Syrc 70EZzzz 70FSyrc 74BZzzz 74DSyrc 750Arab 780Thaa 7B2Zzzz 7C0Nkoo 7FBZzzz 7FDNkoo
800Samr 82EZzzz 830Samr 83FZzzz 840Mand 85CZzzz 85EMand 85FZzzz 860Syrc 86BZzzz 870Arab 892Zzzz
897Arab 8E2Zyyy 8E3Arab 900Deva 951Zinh 955Deva 964Zyyy 966Deva 980Beng 984Zzzz 985Beng 98DZzzz
98FBeng 991Zzzz 993Beng 9A9Zzzz 9AABeng 9B1Zzzz 9B2Beng 9B3Zzzz 9B6Beng 9BAZzzz 9BCBeng 9C5Zzzz
9C7Beng 9C9Zzzz 9CBBeng 9CFZzzz 9D7Beng 9D8Zzzz 9DCBeng 9DEZzzz 9DFBeng 9E4Zzzz 9E6Beng 9FFZzzz
A01Guru A04Zzzz A05Guru A0BZzzz A0FGuru A11Zzzz A13Guru A29Zzzz A2AGuru A31Zzzz A32Guru A34Zzzz
A35Guru A37Zzzz A38Guru A3AZzzz A3CGuru A3DZzzz A3EGuru A43Zzzz A47Guru A49Zzzz A4BGuru A4EZzzz
A51Guru A52Zzzz A59Guru A5DZzzz A5EGuru A5FZzzz A66Guru A77Zzzz A81Gujr A84Zzzz A85Gujr A8EZzzz
A8FGujr A92Zzzz A93Gujr AA9Zzzz AAAGujr AB1Zzzz AB2Gujr AB4Zzzz AB5Gujr ABAZzzz ABCGujr AC6Zzzz
AC7Gujr ACAZzzz ACBGujr ACEZzzz AD0Gujr AD1Zzzz AE0Gujr AE4Zzzz AE6Gujr AF2Zzzz AF9Gujr B00Zzzz
B01Orya B04Zzzz B05Orya B0DZzzz B0FOrya B11Zzzz B13Orya B29Zzzz B2AOrya B31Zzzz B32Orya B34Zzzz
B35Orya B3AZzzz B3COrya B45Zzzz B47Orya B49Zzzz B4BOrya B4EZzzz B55Orya B58Zzzz B5COrya B5EZzzz
B5FOrya B64Zzzz B66Orya B78Zzzz B82Taml B84Zzzz B85Taml B8BZzzz B8ETaml B91Zzzz B92Taml B96Zzzz
B99Taml B9BZzzz B9CTaml B9DZzzz B9ETaml BA0Zzzz BA3Taml BA5Zzzz BA8Taml BABZzzz BAETaml BBAZzzz
BBETaml BC3Zzzz BC6Taml BC9Zzzz BCATaml BCEZzzz BD0Taml BD1Zzzz BD7Taml BD8Zzzz BE6Taml BFBZzzz
C00Telu C0DZzzz C0ETelu C11Zzzz C12Telu C29Zzzz C2ATelu C3AZzzz C3CTelu C45Zzzz C46Telu C49Zzzz
C4ATelu C4EZzzz C55Telu C57Zzzz C58Telu C5BZzzz C5CTelu C5EZzzz C60Telu C64Zzzz C66Telu C70Zzzz
C77Telu C80Knda C8DZzzz C8EKnda C91Zzzz C92Knda CA9Zzzz CAAKnda CB4Zzzz CB5Knda CBAZzzz CBCKnda
CC5Zzzz CC6Knda CC9Zzzz CCAKnda CCEZzzz CD5Knda CD7Zzzz CDCKnda CDFZzzz CE0Knda CE4Zzzz CE6Knda
CF0Zzzz CF1Knda CF4Zzzz D00Mlym D0DZzzz D0EMlym D11Zzzz D12Mlym D45Zzzz D46Mlym D49Zzzz D4AMlym
D50Zzzz D54Mlym D64Zzzz D66Mlym D80Zzzz D81Sinh D84Zzzz D85Sinh D97Zzzz D9ASinh DB2Zzzz DB3Sinh
DBCZzzz DBDSinh DBEZzzz DC0Sinh DC7Zzzz DCASinh DCBZzzz DCFSinh DD5Zzzz DD6Sinh DD7Zzzz DD8Sinh
DE0Zzzz DE6Sinh DF0Zzzz DF2Sinh DF5Zzzz E01Thai E3BZzzz E3FZyyy E40Thai E5CZzzz E81Laoo E83Zzzz
E84Laoo E85Zzzz E86Laoo E8BZzzz E8CLaoo EA4Zzzz EA5Laoo EA6Zzzz EA7Laoo EBEZzzz EC0Laoo EC5Zzzz
EC6Laoo EC7Zzzz EC8Laoo ECFZzzz ED0Laoo EDAZzzz EDCLaoo EE0Zzzz F00Tibt F48Zzzz F49Tibt F6DZzzz
F71Tibt F98Zzzz F99Tibt FBDZzzz FBETibt FCDZzzz FCETibt FD5Zyyy FD9Tibt FDBZzzz 1000Mymr 10A0Geor
10C6Zzzz 10C7Geor 10C8Zzzz 10CDGeor 10CEZzzz 10D0Geor 10FBZyyy 10FCGeor 1100Hang 1200Ethi 1249Zzzz
124AEthi 124EZzzz 1250Ethi 1257Zzzz 1258Ethi 1259Zzzz 125AEthi 125EZzzz 1260Ethi 1289Zzzz 128AEthi
128EZzzz 1290Ethi 12B1Zzzz 12B2Ethi 12B6Zzzz 12B8Ethi 12BFZzzz 12C0Ethi 12C1Zzzz 12C2Ethi 12C6Zzzz
12C8Ethi 12D7Zzzz 12D8Ethi 1311Zzzz 1312Ethi 1316Zzzz 1318Ethi 135BZzzz 135DEthi 137DZzzz 1380Ethi
139AZzzz 13A0Cher 13F6Zzzz 13F8Cher 13FEZzzz 1400Cans 1680Ogam 169DZzzz 16A0Runr 16EBZyyy 16EERunr
16F9Zzzz 1700Tglg 1716Zzzz 171FTglg 1720Hano 1735Zyyy 1737Zzzz 1740Buhd 1754Zzzz 1760Tagb 176DZzzz
176ETagb 1771Zzzz 1772Tagb 1774Zzzz 1780Khmr 17DEZzzz 17E0Khmr 17EAZzzz 17F0Khmr 17FAZzzz 1800Mong
1802Zyyy 1804Mong 1805Zyyy 1806Mong 181AZzzz 1820Mong 1879Zzzz 1880Mong 18ABZzzz 18B0Cans 18F6Zzzz
1900Limb 191FZzzz 1920Limb 192CZzzz 1930Limb 193CZzzz 1940Limb 1941Zzzz 1944Limb 1950Tale 196EZzzz
1970Tale 1975Zzzz 1980Talu 19ACZzzz 19B0Talu 19CAZzzz 19D0Talu 19DBZzzz 19DETalu 19E0Khmr 1A00Bugi
1A1CZzzz 1A1EBugi 1A20Lana 1A5FZzzz 1A60Lana 1A7DZzzz 1A7FLana 1A8AZzzz 1A90Lana 1A9AZzzz 1AA0Lana
1AAEZzzz 1AB0Zinh 1ADEZzzz 1AE0Zinh 1AECZzzz 1B00Bali 1B4DZzzz 1B4EBali 1B80Sund 1BC0Batk 1BF4Zzzz
1BFCBatk 1C00Lepc 1C38Zzzz 1C3BLepc 1C4AZzzz 1C4DLepc 1C50Olck 1C80Cyrl 1C8BZzzz 1C90Geor 1CBBZzzz
1CBDGeor 1CC0Sund 1CC8Zzzz 1CD0Zinh 1CD3Zyyy 1CD4Zinh 1CE1Zyyy 1CE2Zinh 1CE9Zyyy 1CEDZinh 1CEEZyyy
1CF4Zinh 1CF5Zyyy 1CF8Zinh 1CFAZyyy 1CFBZzzz 1D00Latn 1D26Grek 1D2BCyrl 1D2CLatn 1D5DGrek 1D62Latn
1D66Grek 1D6BLatn 1D78Cyrl 1D79Latn 1DBFGrek 1DC0Zinh 1E00Latn 1F00Grek 1F16Zzzz 1F18Grek 1F1EZzzz
1F20Grek 1F46Zzzz 1F48Grek 1F4EZzzz 1F50Grek 1F58Zzzz 1F59Grek 1F5AZzzz 1F5BGrek 1F5CZzzz 1F5DGrek
1F5EZzzz 1F5FGrek 1F7EZzzz 1F80Grek 1FB5Zzzz 1FB6Grek 1FC5Zzzz 1FC6Grek 1FD4Zzzz 1FD6Grek 1FDCZzzz
1FDDGrek 1FF0Zzzz 1FF2Grek 1FF5Zzzz 1FF6Grek 1FFFZzzz 2000Zyyy 200CZinh 200EZyyy 2065Zzzz 2066Zyyy
2071Latn 2072Zzzz 2074Zyyy 207FLatn 2080Zyyy 208FZzzz 2090Latn 209DZzzz 20A0Zyyy 20C2Zzzz 20D0Zinh
20F1Zzzz 2100Zyyy 2126Grek 2127Zyyy 212ALatn 212CZyyy 2132Latn 2133Zyyy 214ELatn 214FZyyy 2160Latn
2189Zyyy 218CZzzz 2190Zyyy 242AZzzz 2440Zyyy 244BZzzz 2460Zyyy 2800Brai 2900Zyyy 2B74Zzzz 2B76Zyyy
2C00Glag 2C60Latn 2C80Copt 2CF4Zzzz 2CF9Copt 2D00Geor 2D26Zzzz 2D27Geor 2D28Zzzz 2D2DGeor 2D2EZzzz
2D30Tfng 2D68Zzzz 2D6FTfng 2D71Zzzz 2D7FTfng 2D80Ethi 2D97Zzzz 2DA0Ethi 2DA7Zzzz 2DA8Ethi 2DAFZzzz
2DB0Ethi 2DB7Zzzz 2DB8Ethi 2DBFZzzz 2DC0Ethi 2DC7Zzzz 2DC8Ethi 2DCFZzzz 2DD0Ethi 2DD7Zzzz 2DD8Ethi
2DDFZzzz 2DE0Cyrl 2E00Zyyy 2E5EZzzz 2E80Hani 2E9AZzzz 2E9BHani 2EF4Zzzz 2F00Hani 2FD6Zzzz 2FF0Zyyy
3005Hani 3006Zyyy 3007Hani 3008Zyyy 3021Hani 302AZinh 302EHang 3030Zyyy 3038Hani 303CZyyy 3040Zzzz
3041Hira 3097Zzzz 3099Zinh 309BZyyy 309DHira 30A0Zyyy 30A1Kana 30FBZyyy 30FDKana 3100Zzzz 3105Bopo
3130Zzzz 3131Hang 318FZzzz 3190Zyyy 31A0Bopo 31C0Zyyy 31E6Zzzz 31EFZyyy 31F0Kana 3200Hang 321FZzzz
3220Zyyy 3260Hang 327FZyyy 32D0Kana 32FFZyyy 3300Kana 3358Zyyy 3400Hani 4DC0Zyyy 4E00Hani A000Yiii
A48DZzzz A490Yiii A4C7Zzzz A4D0Lisu A500Vaii A62CZzzz A640Cyrl A6A0Bamu A6F8Zzzz A700Zyyy A722Latn
A788Zyyy A78BLatn A7DDZzzz A7F1Latn A800Sylo A82DZzzz A830Zyyy A83AZzzz A840Phag A878Zzzz A880Saur
A8C6Zzzz A8CESaur A8DAZzzz A8E0Deva A900Kali A92EZyyy A92FKali A930Rjng A954Zzzz A95FRjng A960Hang
A97DZzzz A980Java A9CEZzzz A9CFZyyy A9D0Java A9DAZzzz A9DEJava A9E0Mymr A9FFZzzz AA00Cham AA37Zzzz
AA40Cham AA4EZzzz AA50Cham AA5AZzzz AA5CCham AA60Mymr AA80Tavt AAC3Zzzz AADBTavt AAE0Mtei AAF7Zzzz
AB01Ethi AB07Zzzz AB09Ethi AB0FZzzz AB11Ethi AB17Zzzz AB20Ethi AB27Zzzz AB28Ethi AB2FZzzz AB30Latn
AB5BZyyy AB5CLatn AB65Grek AB66Latn AB6AZyyy AB6CZzzz AB70Cher ABC0Mtei ABEEZzzz ABF0Mtei ABFAZzzz
AC00Hang D7A4Zzzz D7B0Hang D7C7Zzzz D7CBHang D7FCZzzz F900Hani FA6EZzzz FA70Hani FADAZzzz FB00Latn
FB07Zzzz FB13Armn FB18Zzzz FB1DHebr FB37Zzzz FB38Hebr FB3DZzzz FB3EHebr FB3FZzzz FB40Hebr FB42Zzzz
FB43Hebr FB45Zzzz FB46Hebr FB50Arab FD3EZyyy FD40Arab FDD0Zzzz FDF0Arab FE00Zinh FE10Zyyy FE1AZzzz
FE20Zinh FE2ECyrl FE30Zyyy FE53Zzzz FE54Zyyy FE67Zzzz FE68Zyyy FE6CZzzz FE70Arab FE75Zzzz FE76Arab
FEFDZzzz FEFFZyyy FF00Zzzz FF01Zyyy FF21Latn FF3BZyyy FF41Latn FF5BZyyy FF66Kana FF70Zyyy FF71Kana
FF9EZyyy FFA0Hang FFBFZzzz FFC2Hang FFC8Zzzz FFCAHang FFD0Zzzz FFD2Hang FFD8Zzzz FFDAHang FFDDZzzz
FFE0Zyyy FFE7Zzzz FFE8Zyyy FFEFZzzz FFF9Zyyy FFFEZzzz 10000Linb 1000CZzzz 1000DLinb 10027Zzzz
10028Linb 1003BZzzz 1003CLinb 1003EZzzz 1003FLinb 1004EZzzz 10050Linb 1005EZzzz 10080Linb
100FBZzzz 10100Zyyy 10103Zzzz 10107Zyyy 10134Zzzz 10137Zyyy 10140Grek 1018FZzzz 10190Zyyy
1019DZzzz 101A0Grek 101A1Zzzz 101D0Zyyy 101FDZinh 101FEZzzz 10280Lyci 1029DZzzz 102A0Cari
102D1Zzzz 102E0Zinh 102E1Zyyy 102FCZzzz 10300Ital 10324Zzzz 1032DItal 10330Goth 1034BZzzz
10350Perm 1037BZzzz 10380Ugar 1039EZzzz 1039FUgar 103A0Xpeo 103C4Zzzz 103C8Xpeo 103D6Zzzz
10400Dsrt 10450Shaw 10480Osma 1049EZzzz 104A0Osma 104AAZzzz 104B0Osge 104D4Zzzz 104D8Osge
104FCZzzz 10500Elba 10528Zzzz 10530Aghb 10564Zzzz 1056FAghb 10570Vith 1057BZzzz 1057CVith
1058BZzzz 1058CVith 10593Zzzz 10594Vith 10596Zzzz 10597Vith 105A2Zzzz 105A3Vith 105B2Zzzz
105B3Vith 105BAZzzz 105BBVith 105BDZzzz 105C0Todr 105F4Zzzz 10600Lina 10737Zzzz 10740Lina
10756Zzzz 10760Lina 10768Zzzz 10780Latn 10786Zzzz 10787Latn 107B1Zzzz 107B2Latn 107BBZzzz
10800Cprt 10806Zzzz 10808Cprt 10809Zzzz 1080ACprt 10836Zzzz 10837Cprt 10839Zzzz 1083CCprt
1083DZzzz 1083FCprt 10840Armi 10856Zzzz 10857Armi 10860Palm 10880Nbat 1089FZzzz 108A7Nbat
108B0Zzzz 108E0Hatr 108F3Zzzz 108F4Hatr 108F6Zzzz 108FBHatr 10900Phnx 1091CZzzz 1091FPhnx
10920Lydi 1093AZzzz 1093FLydi 10940Sidt 1095AZzzz 10980Mero 109A0Merc 109B8Zzzz 109BCMerc
109D0Zzzz 109D2Merc 10A00Khar 10A04Zzzz 10A05Khar 10A07Zzzz 10A0CKhar 10A14Zzzz 10A15Khar
10A18Zzzz 10A19Khar 10A36Zzzz 10A38Khar 10A3BZzzz 10A3FKhar 10A49Zzzz 10A50Khar 10A59Zzzz
10A60Sarb 10A80Narb 10AA0Zzzz 10AC0Mani 10AE7Zzzz 10AEBMani 10AF7Zzzz 10B00Avst 10B36Zzzz
10B39Avst 10B40Prti 10B56Zzzz 10B58Prti 10B60Phli 10B73Zzzz 10B78Phli 10B80Phlp 10B92Zzzz
10B99Phlp 10B9DZzzz 10BA9Phlp 10BB0Zzzz 10C00Orkh 10C49Zzzz 10C80Hung 10CB3Zzzz 10CC0Hung
10CF3Zzzz 10CFAHung 10D00Rohg 10D28Zzzz 10D30Rohg 10D3AZzzz 10D40Gara 10D66Zzzz 10D69Gara
10D86Zzzz 10D8EGara 10D90Zzzz 10E60Arab 10E7FZzzz 10E80Yezi 10EAAZzzz 10EABYezi 10EAEZzzz
10EB0Yezi 10EB2Zzzz 10EC2Arab 10EC8Zzzz 10ED0Arab 10ED9Zzzz 10EFAArab 10F00Sogo 10F28Zzzz
10F30Sogd 10F5AZzzz 10F70Ougr 10F8AZzzz 10FB0Chrs 10FCCZzzz 10FE0Elym 10FF7Zzzz 11000Brah
1104EZzzz 11052Brah 11076Zzzz 1107FBrah 11080Kthi 110C3Zzzz 110CDKthi 110CEZzzz 110D0Sora
110E9Zzzz 110F0Sora 110FAZzzz 11100Cakm 11135Zzzz 11136Cakm 11148Zzzz 11150Mahj 11177Zzzz
11180Shrd 111E0Zzzz 111E1Sinh 111F5Zzzz 11200Khoj 11212Zzzz 11213Khoj 11242Zzzz 11280Mult
11287Zzzz 11288Mult 11289Zzzz 1128AMult 1128EZzzz 1128FMult 1129EZzzz 1129FMult 112AAZzzz
112B0Sind 112EBZzzz 112F0Sind 112FAZzzz 11300Gran 11304Zzzz 11305Gran 1130DZzzz 1130FGran
11311Zzzz 11313Gran 11329Zzzz 1132AGran 11331Zzzz 11332Gran 11334Zzzz 11335Gran 1133AZzzz
1133BZinh 1133CGran 11345Zzzz 11347Gran 11349Zzzz 1134BGran 1134EZzzz 11350Gran 11351Zzzz
11357Gran 11358Zzzz 1135DGran 11364Zzzz 11366Gran 1136DZzzz 11370Gran 11375Zzzz 11380Tutg
1138AZzzz 1138BTutg 1138CZzzz 1138ETutg 1138FZzzz 11390Tutg 113B6Zzzz 113B7Tutg 113C1Zzzz
113C2Tutg 113C3Zzzz 113C5Tutg 113C6Zzzz 113C7Tutg 113CBZzzz 113CCTutg 113D6Zzzz 113D7Tutg
113D9Zzzz 113E1Tutg 113E3Zzzz 11400Newa 1145CZzzz 1145DNewa 11462Zzzz 11480Tirh 114C8Zzzz
114D0Tirh 114DAZzzz 11580Sidd 115B6Zzzz 115B8Sidd 115DEZzzz 11600Modi 11645Zzzz 11650Modi
1165AZzzz 11660Mong 1166DZzzz 11680Takr 116BAZzzz 116C0Takr 116CAZzzz 116D0Mymr 116E4Zzzz
11700Ahom 1171BZzzz 1171DAhom 1172CZzzz 11730Ahom 11747Zzzz 11800Dogr 1183CZzzz 118A0Wara
118F3Zzzz 118FFWara 11900Diak 11907Zzzz 11909Diak 1190AZzzz 1190CDiak 11914Zzzz 11915Diak
11917Zzzz 11918Diak 11936Zzzz 11937Diak 11939Zzzz 1193BDiak 11947Zzzz 11950Diak 1195AZzzz
119A0Nand 119A8Zzzz 119AANand 119D8Zzzz 119DANand 119E5Zzzz 11A00Zanb 11A48Zzzz 11A50Soyo
11AA3Zzzz 11AB0Cans 11AC0Pauc 11AF9Zzzz 11B00Deva 11B0AZzzz 11B60Shrd 11B68Zzzz 11BC0Sunu
11BE2Zzzz 11BF0Sunu 11BFAZzzz 11C00Bhks 11C09Zzzz 11C0ABhks 11C37Zzzz 11C38Bhks 11C46Zzzz
11C50Bhks 11C6DZzzz 11C70Marc 11C90Zzzz 11C92Marc 11CA8Zzzz 11CA9Marc 11CB7Zzzz 11D00Gonm
11D07Zzzz 11D08Gonm 11D0AZzzz 11D0BGonm 11D37Zzzz 11D3AGonm 11D3BZzzz 11D3CGonm 11D3EZzzz
11D3FGonm 11D48Zzzz 11D50Gonm 11D5AZzzz 11D60Gong 11D66Zzzz 11D67Gong 11D69Zzzz 11D6AGong
11D8FZzzz 11D90Gong 11D92Zzzz 11D93Gong 11D99Zzzz 11DA0Gong 11DAAZzzz 11DB0Tols 11DDCZzzz
11DE0Tols 11DEAZzzz 11EE0Maka 11EF9Zzzz 11F00Kawi 11F11Zzzz 11F12Kawi 11F3BZzzz 11F3EKawi
11F5BZzzz 11FB0Lisu 11FB1Zzzz 11FC0Taml 11FF2Zzzz 11FFFTaml 12000Xsux 1239AZzzz 12400Xsux
1246FZzzz 12470Xsux 12475Zzzz 12480Xsux 12544Zzzz 12F90Cpmn 12FF3Zzzz 13000Egyp 13456Zzzz
13460Egyp 143FBZzzz 14400Hluw 14647Zzzz 16100Gukh 1613AZzzz 16800Bamu 16A39Zzzz 16A40Mroo
16A5FZzzz 16A60Mroo 16A6AZzzz 16A6EMroo 16A70Tnsa 16ABFZzzz 16AC0Tnsa 16ACAZzzz 16AD0Bass
16AEEZzzz 16AF0Bass 16AF6Zzzz 16B00Hmng 16B46Zzzz 16B50Hmng 16B5AZzzz 16B5BHmng 16B62Zzzz
16B63Hmng 16B78Zzzz 16B7DHmng 16B90Zzzz 16D40Krai 16D7AZzzz 16E40Medf 16E9BZzzz 16EA0Berf
16EB9Zzzz 16EBBBerf 16ED4Zzzz 16F00Plrd 16F4BZzzz 16F4FPlrd 16F88Zzzz 16F8FPlrd 16FA0Zzzz
16FE0Tang 16FE1Nshu 16FE2Hani 16FE4Kits 16FE5Zzzz 16FF0Hani 16FF7Zzzz 17000Tang 18B00Kits
18CD6Zzzz 18CFFKits 18D00Tang 18D1FZzzz 18D80Tang 18DF3Zzzz 1AFF0Kana 1AFF4Zzzz 1AFF5Kana
1AFFCZzzz 1AFFDKana 1AFFFZzzz 1B000Kana 1B001Hira 1B120Kana 1B123Zzzz 1B132Hira 1B133Zzzz
1B150Hira 1B153Zzzz 1B155Kana 1B156Zzzz 1B164Kana 1B168Zzzz 1B170Nshu 1B2FCZzzz 1BC00Dupl
1BC6BZzzz 1BC70Dupl 1BC7DZzzz 1BC80Dupl 1BC89Zzzz 1BC90Dupl 1BC9AZzzz 1BC9CDupl 1BCA0Zyyy
1BCA4Zzzz 1CC00Zyyy 1CCFDZzzz 1CD00Zyyy 1CEB4Zzzz 1CEBAZyyy 1CED1Zzzz 1CEE0Zyyy 1CEF1Zzzz
1CF00Zinh 1CF2EZzzz 1CF30Zinh 1CF47Zzzz 1CF50Zyyy 1CFC4Zzzz 1D000Zyyy 1D0F6Zzzz 1D100Zyyy
1D127Zzzz 1D129Zyyy 1D167Zinh 1D16AZyyy 1D17BZinh 1D183Zyyy 1D185Zinh 1D18CZyyy 1D1AAZinh
1D1AEZyyy 1D1EBZzzz 1D200Grek 1D246Zzzz 1D2C0Zyyy 1D2D4Zzzz 1D2E0Zyyy 1D2F4Zzzz 1D300Zyyy
1D357Zzzz 1D360Zyyy 1D379Zzzz 1D400Zyyy 1D455Zzzz 1D456Zyyy 1D49DZzzz 1D49EZyyy 1D4A0Zzzz
1D4A2Zyyy 1D4A3Zzzz 1D4A5Zyyy 1D4A7Zzzz 1D4A9Zyyy 1D4ADZzzz 1D4AEZyyy 1D4BAZzzz 1D4BBZyyy
1D4BCZzzz 1D4BDZyyy 1D4C4Zzzz 1D4C5Zyyy 1D506Zzzz 1D507Zyyy 1D50BZzzz 1D50DZyyy 1D515Zzzz
1D516Zyyy 1D51DZzzz 1D51EZyyy 1D53AZzzz 1D53BZyyy 1D53FZzzz 1D540Zyyy 1D545Zzzz 1D546Zyyy
1D547Zzzz 1D54AZyyy 1D551Zzzz 1D552Zyyy 1D6A6Zzzz 1D6A8Zyyy 1D7CCZzzz 1D7CEZyyy 1D800Sgnw
1DA8CZzzz 1DA9BSgnw 1DAA0Zzzz 1DAA1Sgnw 1DAB0Zzzz 1DF00Latn 1DF1FZzzz 1DF25Latn 1DF2BZzzz
1E000Glag 1E007Zzzz 1E008Glag 1E019Zzzz 1E01BGlag 1E022Zzzz 1E023Glag 1E025Zzzz 1E026Glag
1E02BZzzz 1E030Cyrl 1E06EZzzz 1E08FCyrl 1E090Zzzz 1E100Hmnp 1E12DZzzz 1E130Hmnp 1E13EZzzz
1E140Hmnp 1E14AZzzz 1E14EHmnp 1E150Zzzz 1E290Toto 1E2AFZzzz 1E2C0Wcho 1E2FAZzzz 1E2FFWcho
1E300Zzzz 1E4D0Nagm 1E4FAZzzz 1E5D0Onao 1E5FBZzzz 1E5FFOnao 1E600Zzzz 1E6C0Tayo 1E6DFZzzz
1E6E0Tayo 1E6F6Zzzz 1E6FETayo 1E700Zzzz 1E7E0Ethi 1E7E7Zzzz 1E7E8Ethi 1E7ECZzzz 1E7EDEthi
1E7EFZzzz 1E7F0Ethi 1E7FFZzzz 1E800Mend 1E8C5Zzzz 1E8C7Mend 1E8D7Zzzz 1E900Adlm 1E94CZzzz
1E950Adlm 1E95AZzzz 1E95EAdlm 1E960Zzzz 1EC71Zyyy 1ECB5Zzzz 1ED01Zyyy 1ED3EZzzz 1EE00Arab
1EE04Zzzz 1EE05Arab 1EE20Zzzz 1EE21Arab 1EE23Zzzz 1EE24Arab 1EE25Zzzz 1EE27Arab 1EE28Zzzz
1EE29Arab 1EE33Zzzz 1EE34Arab 1EE38Zzzz 1EE39Arab 1EE3AZzzz 1EE3BArab 1EE3CZzzz 1EE42Arab
1EE43Zzzz 1EE47Arab 1EE48Zzzz 1EE49Arab 1EE4AZzzz 1EE4BArab 1EE4CZzzz 1EE4DArab 1EE50Zzzz
1EE51Arab 1EE53Zzzz 1EE54Arab 1EE55Zzzz 1EE57Arab 1EE58Zzzz 1EE59Arab 1EE5AZzzz 1EE5BArab
1EE5CZzzz 1EE5DArab 1EE5EZzzz 1EE5FArab 1EE60Zzzz 1EE61Arab 1EE63Zzzz 1EE64Arab 1EE65Zzzz
1EE67Arab 1EE6BZzzz 1EE6CArab 1EE73Zzzz 1EE74Arab 1EE78Zzzz 1EE79Arab 1EE7DZzzz 1EE7EArab
1EE7FZzzz 1EE80Arab 1EE8AZzzz 1EE8BArab 1EE9CZzzz 1EEA1Arab 1EEA4Zzzz 1EEA5Arab 1EEAAZzzz
1EEABArab 1EEBCZzzz 1EEF0Arab 1EEF2Zzzz 1F000Zyyy 1F02CZzzz 1F030Zyyy 1F094Zzzz 1F0A0Zyyy
1F0AFZzzz 1F0B1Zyyy 1F0C0Zzzz 1F0C1Zyyy 1F0D0Zzzz 1F0D1Zyyy 1F0F6Zzzz 1F100Zyyy 1F1AEZzzz
1F1E6Zyyy 1F200Hira 1F201Zyyy 1F203Zzzz 1F210Zyyy 1F23CZzzz 1F240Zyyy 1F249Zzzz 1F250Zyyy
1F252Zzzz 1F260Zyyy 1F266Zzzz 1F300Zyyy 1F6D9Zzzz 1F6DCZyyy 1F6EDZzzz 1F6F0Zyyy 1F6FDZzzz
1F700Zyyy 1F7DAZzzz 1F7E0Zyyy 1F7ECZzzz 1F7F0Zyyy 1F7F1Zzzz 1F800Zyyy 1F80CZzzz 1F810Zyyy
1F848Zzzz 1F850Zyyy 1F85AZzzz 1F860Zyyy 1F888Zzzz 1F890Zyyy 1F8AEZzzz 1F8B0Zyyy 1F8BCZzzz
1F8C0Zyyy 1F8C2Zzzz 1F8D0Zyyy 1F8D9Zzzz 1F900Zyyy 1FA58Zzzz 1FA60Zyyy 1FA6EZzzz 1FA70Zyyy
1FA7DZzzz 1FA80Zyyy 1FA8BZzzz 1FA8EZyyy 1FAC7Zzzz 1FAC8Zyyy 1FAC9Zzzz 1FACDZyyy 1FADDZzzz
1FADFZyyy 1FAEBZzzz 1FAEFZyyy 1FAF9Zzzz 1FB00Zyyy 1FB93Zzzz 1FB94Zyyy 1FBFBZzzz 20000Hani
2A6E0Zzzz 2A700Hani 2B81EZzzz 2B820Hani 2CEAEZzzz 2CEB0Hani 2EBE1Zzzz 2EBF0Hani 2EE5EZzzz
2F800Hani 2FA1EZzzz 30000Hani 3134BZzzz 31350Hani 3347AZzzz E0001Zyyy E0002Zzzz E0020Zyyy
E0080Zzzz E0100Zinh E01F0Zzzz"

def scriptUses : String :=
  "B7:AvstCariCoptDuplElbaGeorGlagGongGothGrekHaniLatnLydiMahjPermShaw
2BC:BengCyrlDevaLatnLisuThaiToto 2C7:BopoLatn 2C9-2CB:BopoLatn 2CD:LatnLisu 2D7:LatnThai
2D9:BopoLatn 300:CherCoptCyrlGrekLatnPermTaleSunu 301:CherCyrlGrekLatnOsgeTaleSunuTodr
302:CherCyrlLatnTfng 303:GlagLatnSyrcThaiSunu 304:AghbCherCoptCyrlGothGrekLatnOsgeSyrcTfngTodr
305:CoptElbaGlagGothKanaLatn 306:CyrlGrekLatnPermTfng 307:CoptDuplHebrLatnPermSyrcTaleTfngTodr
308:ArmnCyrlDuplGothGrekHebrLatnPermSyrcTaleTfng 309:LatnTfng 30A:DuplLatnSyrc
30B:CherCyrlLatnOsge 30C:CherLatnTale 30D:LatnSunu 30E:EthiLatn 310:LatnSunu 311:CyrlLatnTodr
313:GrekLatnPermTodr 323:CherDuplKanaLatnSyrcTfng 324:CherDuplLatnSyrc 325:LatnSyrc
32D:LatnSyrcSunu 32E:LatnSyrc 330:CherLatnSyrc 331:AghbCherGothLatnSyrcThaiSunu 342:Grek 345:Grek
358:LatnOsge 35E:AghbLatnTodr 363-36F:Latn 374-375:CoptGrek 483:CyrlPerm 484:CyrlGlag
485-486:CyrlLatn 487:CyrlGlag 589:ArmnGeorGlag 60C:ArabNkooRohgSyrcThaaYeziGara
61B:ArabNkooRohgSyrcThaaYeziGara 61C:ArabSyrcThaa 61F:AdlmArabNkooRohgSyrcThaaYeziGara
640:AdlmArabMandManiOugrPhlpRohgSogdSyrc 64B-655:ArabSyrc 660-669:ArabThaaYezi 670:ArabSyrc
6D4:ArabRohg 951:BengDevaGranGujrGuruKndaLatnMlymNandNewaOryaShrdTamlTeluTirh
952:BengDevaGranGujrGuruKndaLatnMlymNewaOryaTamlTeluTirh
964:BengDevaDogrGongGonmGranGujrGuruKndaMahjMlymNandOryaSindSinhSyloTakrTamlTeluTirhOnao
965:BengDevaDogrGongGonmGranGujrGuruKndaLimbMahjMlymNandOryaSindSinhSyloTakrTamlTeluTirhGukhOnao
966-96F:DevaDogrKthiMahj 9E6-9EF:BengCakmSylo A66-A6F:GuruMult AE6-AEF:GujrKhoj BE6-BF3:GranTaml
CE6-CEF:KndaNandTutg 1040-1049:CakmMymrTale 10FB:GeorGlagLatn 16EB-16ED:Runr
1735-1736:BuhdHanoTagbTglg 1802-1803:MongPhag 1805:MongPhag 1CD0:BengDevaGranKnda 1CD1:Deva
1CD2:BengDevaGranKnda 1CD3:DevaGranKnda 1CD4:Deva 1CD5:BengDevaNewaTeluTirh 1CD6:BengDevaTelu
1CD7:DevaNewaShrd 1CD8:BengDevaNewaTelu 1CD9:DevaShrd 1CDA:DevaKndaMlymOryaTamlTelu 1CDB:Deva
1CDC-1CDD:DevaShrd 1CDE-1CDF:Deva 1CE0:DevaShrd 1CE1:BengDeva 1CE2:DevaNewaTirh 1CE3-1CE8:Deva
1CE9:DevaNandNewa 1CEA:BengDevaShrd 1CEB:DevaNewa 1CEC:Deva 1CED:BengDevaNewaShrd 1CEE-1CF1:Deva
1CF2:BengDevaGranKndaMlymNandOryaSinhTeluTirhTutg 1CF3:DevaGran 1CF4:DevaGranKndaTutg
1CF5-1CF6:BengDeva 1CF7:Beng 1CF8-1CF9:DevaGran 1CFA:Nand 1DC0-1DC1:Grek 1DF8:CyrlLatnSyrc
1DFA:Syrc 202F:LatnMongPhag 204F:AdlmArab 205A:CariGeorGlagHungLyciOrkh 205D:CariGrekHungMero
20F0:DevaGranLatn 2E17:CoptLatn 2E30:AvstOrkh 2E31:AvstCariGeorHungKthiLydiSamr 2E3C:Dupl
2E41:AdlmArabHung 2E43:CyrlGlag 2FF0-2FFF:HaniTang 3001:BopoHangHaniHiraKanaMongYiii
3002:BopoHangHaniHiraKanaMongPhagYiii 3003:BopoHangHaniHiraKana 3006:Hani
3008-3009:BopoHangHaniHiraKanaMongTibtYiii 300A-300B:BopoHangHaniHiraKanaLisuMongTibtYiii
300C-3011:BopoHangHaniHiraKanaYiii 3013:BopoHangHaniHiraKana 3014-301B:BopoHangHaniHiraKanaYiii
301C-301F:BopoHangHaniHiraKana 302A-302D:BopoHani 3030:BopoHangHaniHiraKana 3031-3035:HiraKana
3037:BopoHangHaniHiraKana 303C-303D:HaniHiraKana 303E-303F:Hani 3099-309C:HiraKana 30A0:HiraKana
30FB:BopoHangHaniHiraKanaYiii 30FC:HiraKana 3190-319F:Hani 31C0-31E5:Hani 31EF:HaniTang
3220-3247:Hani 3280-32B0:Hani 32C0-32CB:Hani 32FF:Hani 3358-3370:Hani 337B-337F:Hani
33E0-33FE:Hani A66F:CyrlGlag A700-A707:HaniLatn
A830-A832:DevaDogrGujrGuruKhojKndaKthiMahjMlymModiNandShrdSindTakrTirhTutg
A833-A835:DevaDogrGujrGuruKhojKndaKthiMahjModiNandShrdSindTakrTirhTutg
A836-A837:DevaDogrGujrGuruKhojKthiMahjModiSindTakrTirh
A838:DevaDogrGujrGuruKhojKthiMahjModiShrdSindTakrTirh
A839:DevaDogrGujrGuruKhojKthiMahjModiSindTakrTirh A8F1:BengDevaTutg A8F3:DevaTaml
A92E:KaliLatnMymr A9CF:BugiJava FD3E-FD3F:ArabNkoo FDF2:ArabThaa FDFD:ArabThaa
FE45-FE46:BopoHangHaniHiraKana FF61-FF65:BopoHangHaniHiraKanaYiii FF70:HiraKana FF9E-FF9F:HiraKana
10100-10101:CpmnCprtLinb 10102:CprtLinb 10107-10133:CprtLinaLinb 10137-1013F:CprtLinb
102E0-102FB:ArabCopt 10AF2:ManiOugr 11301:GranTaml 11303:GranTaml 1133B-1133C:GranTaml
11FD0-11FD1:GranTaml 11FD3:GranTaml 1BCA0-1BCA3:Dupl 1D360-1D371:Hani 1F250-1F251:Hani"

def scriptNames : String :=
  "Adlm=adlam Aghb=caucasianalbanian Ahom Arab=arabic Armi=imperialaramaic Armn=armenian
Avst=avestan Bali=balinese Bamu=bamum Bass=bassavah Batk=batak Beng=bengali Bhks=bhaiksuki
Bopo=bopomofo Brah=brahmi Brai=braille Bugi=buginese Buhd=buhid Cakm=chakma
Cans=canadianaboriginal Cari=carian Cham Cher=cherokee Chrs=chorasmian Copt=coptic=qaac
Cpmn=cyprominoan Cprt=cypriot Cyrl=cyrillic Deva=devanagari Diak=divesakuru Dogr=dogra
Dsrt=deseret Dupl=duployan Egyp=egyptianhieroglyphs Elba=elbasan Elym=elymaic Ethi=ethiopic
Geor=georgian Glag=glagolitic Gong=gunjalagondi Gonm=masaramgondi Goth=gothic Gran=grantha
Grek=greek Gujr=gujarati Guru=gurmukhi Hang=hangul Hani=han Hano=hanunoo Hatr=hatran Hebr=hebrew
Hira=hiragana Hluw=anatolianhieroglyphs Hmng=pahawhhmong Hmnp=nyiakengpuachuehmong
Hung=oldhungarian Ital=olditalic Java=javanese Kali=kayahli Kana=katakana Kawi Khar=kharoshthi
Khmr=khmer Khoj=khojki Kits=khitansmallscript Knda=kannada Kthi=kaithi Lana=taitham Laoo=lao
Latn=latin Lepc=lepcha Limb=limbu Lina=lineara Linb=linearb Lisu Lyci=lycian Lydi=lydian
Mahj=mahajani Maka=makasar Mand=mandaic Mani=manichaean Marc=marchen Medf=medefaidrin
Mend=mendekikakui Merc=meroiticcursive Mero=meroitichieroglyphs Mlym=malayalam Modi Mong=mongolian
Mroo=mro Mtei=meeteimayek Mult=multani Mymr=myanmar Nagm=nagmundari Nand=nandinagari
Narb=oldnortharabian Nbat=nabataean Newa Nkoo=nko Nshu=nushu Ogam=ogham Olck=olchiki
Orkh=oldturkic Orya=oriya Osge=osage Osma=osmanya Ougr=olduyghur Palm=palmyrene Pauc=paucinhau
Perm=oldpermic Phag=phagspa Phli=inscriptionalpahlavi Phlp=psalterpahlavi Phnx=phoenician
Plrd=miao Prti=inscriptionalparthian Rjng=rejang Rohg=hanifirohingya Runr=runic Samr=samaritan
Sarb=oldsoutharabian Saur=saurashtra Sgnw=signwriting Shaw=shavian Shrd=sharada Sidd=siddham
Sind=khudawadi Sinh=sinhala Sogd=sogdian Sogo=oldsogdian Sora=sorasompeng Soyo=soyombo
Sund=sundanese Sylo=sylotinagri Syrc=syriac Tagb=tagbanwa Takr=takri Tale=taile Talu=newtailue
Taml=tamil Tang=tangut Tavt=taiviet Telu=telugu Tfng=tifinagh Tglg=tagalog Thaa=thaana Thai
Tibt=tibetan Tirh=tirhuta Tnsa=tangsa Toto Ugar=ugaritic Vaii=vai Vith=vithkuqi Wara=warangciti
Wcho=wancho Xpeo=oldpersian Xsux=cuneiform Yezi=yezidi Yiii=yi Zanb=zanabazarsquare
Zinh=inherited=qaai Zyyy=common Gara=garay Gukh=gurungkhema Krai=kiratrai Onao=olonal
Sunu=sunuwar Todr=todhri Tutg=tulutigalari Sidt=sidetic Tayo=taiyo Tols=tolongsiki Berf=beriaerfe"

end OpPolicy.Text
