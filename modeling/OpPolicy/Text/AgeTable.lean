set_option autoImplicit false

/-!
The versions of Unicode in which characters came: the runs of code points of one version, each with
its first code point in hexadecimal and two digits for the version, in ascending order.
-/

namespace OpPolicy.Text

def ageTable : String :=
  "000 1F603 1FA00 21803 22005 22106 22203 23406 23707 24208 25000 2A903 2AE06 2B000 2DF03 2E000
2EA03 2EF06 30000 34603 34F05 35006 35807 35D06 36000 36203 36305 37009 37400 37609 37828 37A00
37B08 37E00 37F15 38028 38400 38B28 38C00 38D28 38E00 3A228 3A300 3CF09 3D000 3D703 3D805 3DA00
3DB03 3DC00 3DD03 3DE00 3DF03 3E000 3E103 3E200 3F404 3F605 3F706 3FC07 40003 40100 40D03 40E00
45003 45100 45D03 45E00 48709 48803 48A05 48C03 49000 4C505 4C700 4C905 4CB00 4CD05 4CF08 4D000
4EC03 4EE00 4F607 4F800 4FA08 50005 51008 51409 52410 52611 52815 53028 53100 55728 55900 56019
56100 58819 58900 58A03 58B28 58D15 58F12 59028 59101 5A207 5A301 5B000 5BA08 5BB00 5C401 5C507
5C828 5D000 5EB28 5EF19 5F000 5F528 60006 60412 60515 60609 60B07 60C00 60D06 61609 61B00 61C14
61D23 61E07 61F00 62011 62100 63B09 64000 65303 65606 65907 65F11 66000 66E05 67000 6B803 6BA00
6BF03 6C000 6CF03 6D000 6EE06 6F000 6FA03 6FF06 70003 70E28 70F03 72D06 73003 74B28 74D06 75007
76E09 78003 7B105 7B228 7C008 7FB28 7FD19 80010 82E28 83010 83F28 84011 85C28 85E11 85F28 86018
86B28 87023 88F27 89023 89228 89726 89823 8A012 8A115 8A212 8AD15 8B316 8B523 8B617 8BE22 8C823
8D319 8D417 8E316 8E412 8FF15 90010 90100 90406 90500 93A11 93C00 94E10 94F11 95000 95510 95611
95800 97109 97311 97815 97910 97B08 97D07 97E08 98015 98100 98428 98500 98D28 98F00 99128 99300
9A928 9AA00 9B128 9B200 9B328 9B600 9BA28 9BC00 9BD06 9BE00 9C528 9C700 9C928 9CB00 9CE07 9CF28
9D700 9D828 9DC00 9DE28 9DF00 9E428 9E600 9FB10 9FC18 9FE19 9FF28 A0106 A0200 A0306 A0428 A0500
A0B28 A0F00 A1128 A1300 A2928 A2A00 A3128 A3200 A3428 A3500 A3728 A3800 A3A28 A3C00 A3D28 A3E00
A4328 A4700 A4928 A4B00 A4E28 A5109 A5228 A5900 A5D28 A5E00 A5F28 A6600 A7509 A7619 A7728 A8100
A8428 A8500 A8C06 A8D00 A8E28 A8F00 A9228 A9300 AA928 AAA00 AB128 AB200 AB428 AB500 ABA28 ABC00
AC628 AC700 ACA28 ACB00 ACE28 AD000 AD128 AE000 AE106 AE428 AE600 AF012 AF106 AF228 AF916 AFA18
B0028 B0100 B0428 B0500 B0D28 B0F00 B1128 B1300 B2928 B2A00 B3128 B3200 B3428 B3506 B3600 B3A28
B3C00 B4409 B4528 B4700 B4928 B4B00 B4E28 B5522 B5600 B5828 B5C00 B5E28 B5F00 B6209 B6428 B6600
B7106 B7211 B7828 B8200 B8428 B8500 B8B28 B8E00 B9128 B9200 B9628 B9900 B9B28 B9C00 B9D28 B9E00
BA028 BA300 BA528 BA800 BAB28 BAE00 BB607 BB700 BBA28 BBE00 BC328 BC600 BC928 BCA00 BCE28 BD009
BD128 BD700 BD828 BE607 BE700 BF306 BFB28 C0015 C0100 C0419 C0500 C0D28 C0E00 C1128 C1200 C2928
C2A00 C3415 C3500 C3A28 C3C23 C3D09 C3E00 C4528 C4600 C4928 C4A00 C4E28 C5500 C5728 C5809 C5A16
C5B28 C5C27 C5D23 C5E28 C6000 C6209 C6428 C6600 C7028 C7720 C7809 C8017 C8115 C8200 C8419 C8500
C8D28 C8E00 C9128 C9200 CA928 CAA00 CB428 CB500 CBA28 CBC06 CBE00 CC528 CC600 CC928 CCA00 CCE28
CD500 CD728 CDC27 CDD23 CDE00 CDF28 CE000 CE208 CE428 CE600 CF028 CF108 CF324 CF428 D0018 D0115
D0200 D0422 D0500 D0D28 D0E00 D1128 D1200 D2911 D2A00 D3A11 D3B18 D3D09 D3E00 D4409 D4528 D4600
D4928 D4A00 D4E11 D4F17 D5028 D5417 D5700 D5817 D5F16 D6000 D6209 D6428 D6600 D7009 D7617 D7909
D8028 D8122 D8203 D8428 D8503 D9728 D9A03 DB228 DB303 DBC28 DBD03 DBE28 DC003 DC728 DCA03 DCB28
DCF03 DD528 DD603 DD728 DD803 DE028 DE615 DF028 DF203 DF528 E0100 E3B28 E3F00 E5C28 E8100 E8328
E8400 E8528 E8620 E8700 E8920 E8A00 E8B28 E8C20 E8D00 E8E20 E9400 E9820 E9900 EA020 EA100 EA428
EA500 EA628 EA700 EA820 EAA00 EAC20 EAD00 EBA20 EBB00 EBE28 EC000 EC528 EC600 EC728 EC800 ECE24
ECF28 ED000 EDA28 EDC00 EDE12 EE028 F0001 F4828 F4901 F6A03 F6B09 F6D28 F7101 F8C11 F9001 F9603
F9701 F9828 F9901 FAE03 FB101 FB803 FB901 FBA03 FBD28 FBE03 FCD28 FCE09 FCF03 FD007 FD209 FD510
FD911 FDB28 100003 102209 102303 102809 102903 102B09 102C03 103309 103603 103A09 104003 105A09
109A10 109E09 10A000 10C628 10C712 10C828 10CD12 10CE28 10D000 10F705 10F907 10FB00 10FC07 10FD12
110000 115A10 115F00 11A310 11A800 11FA10 120003 120707 120803 124707 124803 124928 124A03 124E28
125003 125728 125803 125928 125A03 125E28 126003 128707 128803 128928 128A03 128E28 129003 12AF07
12B003 12B128 12B203 12B628 12B803 12BF28 12C003 12C128 12C203 12C628 12C803 12CF07 12D003 12D728
12D803 12EF07 12F003 130F07 131003 131128 131203 131628 131803 131F07 132003 134707 134803 135B28
135D11 135F07 136103 137D28 138007 139A28 13A003 13F516 13F628 13F816 13FE28 140010 140103 167710
168003 169D28 16A003 16F115 16F928 170005 170D23 170E05 171523 171628 171F23 172005 173728 174005
175428 176005 176D28 176E05 177128 177205 177428 178003 17DD06 17DE28 17E003 17EA28 17F006 17FA28
180003 180F23 181003 181A28 182003 187819 187928 188003 18AA09 18AB28 18B010 18F628 190006 191D15
191F28 192006 192C28 193006 193C28 194006 194128 194406 196E28 197006 197528 198007 19AA10 19AC28
19B007 19CA28 19D007 19DA10 19DB28 19DE07 19E006 1A0007 1A1C28 1A1E07 1A2010 1A5F28 1A6010 1A7D28
1A7F10 1A8A28 1A9010 1A9A28 1AA010 1AAE28 1AB015 1ABF22 1AC123 1ACF27 1ADE28 1AE027 1AEC28 1B0008
1B4C23 1B4D28 1B4E26 1B5008 1B7D23 1B7F26 1B8009 1BAB12 1BAE09 1BBA12 1BC011 1BF428 1BFC11 1C0009
1C3828 1C3B09 1C4A28 1C4D09 1C8017 1C8926 1C8B28 1C9019 1CBB28 1CBD19 1CC012 1CC828 1CD010 1CF312
1CF718 1CF815 1CFA20 1CFB28 1D0006 1D6C07 1DC408 1DCB09 1DE715 1DF618 1DFA23 1DFB17 1DFC11 1DFD10
1DFE08 1E0000 1E9B01 1E9C09 1EA000 1EFA09 1F0000 1F1628 1F1800 1F1E28 1F2000 1F4628 1F4800 1F4E28
1F5000 1F5828 1F5900 1F5A28 1F5B00 1F5C28 1F5D00 1F5E28 1F5F00 1F7E28 1F8000 1FB528 1FB600 1FC528
1FC600 1FD428 1FD600 1FDC28 1FDD00 1FF028 1FF200 1FF528 1FF600 1FFF28 200000 202F03 203000 204705
204803 204E05 205306 205507 205705 205807 205F05 206409 206528 206614 206A00 207105 207228 207400
208F28 209007 209511 209D28 20A000 20AB01 20AC02 20AD03 20B005 20B207 20B610 20B911 20BA13 20BB15
20BE16 20BF18 20C023 20C127 20C228 20D000 20E203 20E405 20EB07 20EC08 20F009 20F128 210000 213903
213B06 213C07 213D05 214C07 214D08 214F09 215010 215300 218303 218408 218509 218910 218A16 218C28
219000 21EB03 21F405 220000 22F205 230000 230103 230200 237B03 237C05 237D03 239B05 23CF06 23D107
23DC08 23E810 23E911 23F415 23FB17 23FF18 240000 242503 242726 242A28 244000 244B28 246000 24EB05
24FF06 250000 259605 25A000 25F003 25F805 260000 261406 261605 261807 261903 261A00 267003 267205
267E07 268005 268A06 269207 269D09 269E10 26A006 26A207 26B208 26B309 26BD10 26C009 26C410 26CE11
26CF10 26E211 26E310 26E411 26E810 270015 270100 270511 270600 270A11 270C00 272811 272900 274C11
274D00 274E11 274F00 275311 275600 275710 275800 275F11 276100 276805 277600 279511 279800 27B011
27B100 27BF11 27C007 27C708 27CB12 27CC09 27CD12 27CE11 27D005 27EC09 27F005 280003 290005 2B0006
2B0E07 2B1408 2B1B09 2B2008 2B2409 2B4D15 2B5009 2B5510 2B5A15 2B7428 2B7615 2B9627 2B9722 2B9815
2BBA19 2BBD15 2BC920 2BCA15 2BD218 2BD319 2BEC16 2BF019 2BFF20 2C0007 2C2F23 2C3007 2C5F23 2C6008
2C6D09 2C7010 2C7109 2C7408 2C7809 2C7E10 2C8007 2CEB10 2CF212 2CF428 2CF907 2D2628 2D2712 2D2828
2D2D12 2D2E28 2D3007 2D6612 2D6828 2D6F07 2D7011 2D7128 2D7F11 2D8007 2D9728 2DA007 2DA728 2DA807
2DAF28 2DB007 2DB728 2DB807 2DBF28 2DC007 2DC728 2DC807 2DCF28 2DD007 2DD728 2DD807 2DDF28 2DE009
2E0007 2E1809 2E1C07 2E1E09 2E3110 2E3212 2E3C15 2E4317 2E4518 2E4A19 2E4F20 2E5022 2E5323 2E5E28
2E8003 2E9A28 2E9B03 2EF428 2F0003 2FD628 2FF003 2FFC25 300000 303803 303B05 303E03 303F00 304028
304100 309505 309728 309900 309F05 30A100 30FF05 310028 310500 312D09 312E18 312F19 313028 313100
318F28 319000 31A003 31B811 31BB22 31C007 31D009 31E426 31E628 31EF25 31F005 320000 321D06 321F28
322000 324410 325006 325105 326000 327C06 327E07 327F00 32B105 32C000 32CC06 32D000 32FF21 330000
337706 337B00 33DE06 33E000 33FF06 340003 4DB622 4DC006 4E0000 9FA607 9FBC09 9FC410 9FCC12 9FCD16
9FD618 9FEB19 9FF022 9FFD23 A00003 A48D28 A49003 A4A205 A4A403 A4B405 A4B503 A4C105 A4C203 A4C505
A4C603 A4C728 A4D010 A50009 A62C28 A64009 A66011 A66209 A67412 A67C09 A69815 A69E16 A69F12 A6A010
A6F828 A70007 A71708 A71B09 A72008 A72209 A78D11 A78F16 A79011 A79212 A79415 A7A011 A7AA12 A7AB15
A7AE17 A7AF19 A7B015 A7B216 A7B819 A7BA20 A7C023 A7C220 A7C722 A7CB26 A7CE27 A7D023 A7D227 A7D323
A7D427 A7D523 A7DA26 A7DD28 A7F127 A7F223 A7F522 A7F715 A7F812 A7FA11 A7FB09 A80007 A82C22 A82D28
A83010 A83A28 A84008 A87828 A88009 A8C517 A8C628 A8CE09 A8DA28 A8E010 A8FC16 A8FE19 A90009 A95428
A95F09 A96010 A97D28 A98010 A9CE28 A9CF10 A9DA28 A9DE10 A9E015 A9FF28 AA0009 AA3728 AA4009 AA4E28
AA5009 AA5A28 AA5C09 AA6010 AA7C15 AA8010 AAC328 AADB10 AAE012 AAF728 AB0111 AB0728 AB0911 AB0F28
AB1111 AB1728 AB2011 AB2728 AB2811 AB2F28 AB3015 AB6016 AB6415 AB6620 AB6822 AB6C28 AB7016 ABC010
ABEE28 ABF010 ABFA28 AC0001 D7A428 D7B010 D7C728 D7CB10 D7FC28 D80001 E00000 FA2E12 FA3005 FA6B10
FA6E28 FA7007 FADA28 FB0000 FB0728 FB1300 FB1828 FB1D03 FB1E00 FB3728 FB3800 FB3D28 FB3E00 FB3F28
FB4000 FB4228 FB4300 FB4528 FB4600 FBB211 FBC223 FBC327 FBD300 FD4023 FD5000 FD9027 FD9200 FDC827
FDCF23 FDD004 FDF000 FDFC05 FDFD06 FDFE23 FE0005 FE1007 FE1A28 FE2000 FE2409 FE2715 FE2E16 FE3000
FE4505 FE4706 FE4900 FE5328 FE5400 FE6728 FE6800 FE6C28 FE7000 FE7305 FE7400 FE7528 FE7600 FEFD28
FEFF00 FF0028 FF0100 FF5F05 FF6100 FFBF28 FFC200 FFC828 FFCA00 FFD028 FFD200 FFD828 FFDA00 FFDD28
FFE000 FFE728 FFE800 FFEF28 FFF903 FFFC02 FFFD00 1000006 1000C28 1000D06 1002728 1002806 1003B28
1003C06 1003E28 1003F06 1004E28 1005006 1005E28 1008006 100FB28 1010006 1010328 1010706 1013428
1013706 1014007 1018B15 1018D17 1018F28 1019009 1019C22 1019D28 101A015 101A128 101D009 101FE28
1028009 1029D28 102A009 102D128 102E015 102FC28 1030004 1031F15 1032004 1032428 1032D18 1033004
1034B28 1035015 1037B28 1038006 1039E28 1039F06 103A007 103C428 103C807 103D628 1040004 1042606
1042804 1044E06 1049E28 104A006 104AA28 104B017 104D428 104D817 104FC28 1050015 1052828 1053015
1056428 1056F15 1057023 1057B28 1057C23 1058B28 1058C23 1059328 1059423 1059628 1059723 105A228
105A323 105B228 105B323 105BA28 105BB23 105BD28 105C026 105F428 1060015 1073728 1074015 1075628
1076015 1076828 1078023 1078628 1078723 107B128 107B223 107BB28 1080006 1080628 1080806 1080928
1080A06 1083628 1083706 1083928 1083C06 1083D28 1083F06 1084010 1085628 1085710 1086015 1089F28
108A715 108B028 108E016 108F328 108F416 108F628 108FB16 1090008 1091A10 1091C28 1091F08 1092009
1093A28 1093F09 1094027 1095A28 1098012 109B828 109BC16 109BE12 109C016 109D028 109D216 10A0007
10A0428 10A0507 10A0728 10A0C07 10A1428 10A1507 10A1828 10A1907 10A3419 10A3628 10A3807 10A3B28
10A3F07 10A4819 10A4928 10A5007 10A5928 10A6010 10A8015 10AA028 10AC015 10AE728 10AEB15 10AF728
10B0010 10B3628 10B3910 10B5628 10B5810 10B7328 10B7810 10B8015 10B9228 10B9915 10B9D28 10BA915
10BB028 10C0010 10C4928 10C8016 10CB328 10CC016 10CF328 10CFA16 10D0019 10D2828 10D3019 10D3A28
10D4026 10D6628 10D6926 10D8628 10D8E26 10D9028 10E6010 10E7F28 10E8022 10EAA28 10EAB22 10EAE28
10EB022 10EB228 10EC226 10EC527 10EC828 10ED027 10ED928 10EFA27 10EFC26 10EFD24 10F0019 10F2828
10F3019 10F5A28 10F7023 10F8A28 10FB022 10FCC28 10FE020 10FF728 1100011 1104E28 1105211 1107023
1107628 1107F15 1108010 110C223 110C328 110CD19 110CE28 110D012 110E928 110F012 110FA28 1110012
1113528 1113612 1114419 1114722 1114828 1115015 1117728 1118012 111C916 111CD15 111CE22 111D012
111DA15 111DB16 111E028 111E115 111F528 1120015 1121228 1121315 1123E17 1123F24 1124228 1128016
1128728 1128816 1128928 1128A16 1128E28 1128F16 1129E28 1129F16 112AA28 112B015 112EB28 112F015
112FA28 1130016 1130115 1130428 1130515 1130D28 1130F15 1131128 1131315 1132928 1132A15 1133128
1133215 1133428 1133515 1133A28 1133B19 1133C15 1134528 1134715 1134928 1134B15 1134E28 1135016
1135128 1135715 1135828 1135D15 1136428 1136615 1136D28 1137015 1137528 1138026 1138A28 1138B26
1138C28 1138E26 1138F28 1139026 113B628 113B726 113C128 113C226 113C328 113C526 113C628 113C726
113CB28 113CC26 113D628 113D726 113D928 113E126 113E328 1140017 1145A22 1145B17 1145C28 1145D17
1145E19 1145F20 1146022 1146228 1148015 114C828 114D015 114DA28 1158015 115B628 115B815 115CA16
115DE28 1160015 1164528 1165015 1165A28 1166017 1166D28 1168012 116B820 116B923 116BA28 116C012
116CA28 116D026 116E428 1170016 1171A19 1171B28 1171D16 1172C28 1173016 1174023 1174728 1180019
1183C28 118A015 118F328 118FF15 1190022 1190728 1190922 1190A28 1190C22 1191428 1191522 1191728
1191822 1193628 1193722 1193928 1193B22 1194728 1195022 1195A28 119A020 119A828 119AA20 119D828
119DA20 119E528 11A0018 11A4828 11A5018 11A8420 11A8618 11A9D19 11A9E18 11AA328 11AB023 11AC015
11AF928 11B0024 11B0A28 11B6027 11B6828 11BC026 11BE228 11BF026 11BFA28 11C0017 11C0928 11C0A17
11C3728 11C3817 11C4628 11C5017 11C6D28 11C7017 11C9028 11C9217 11CA828 11CA917 11CB728 11D0018
11D0728 11D0818 11D0A28 11D0B18 11D3728 11D3A18 11D3B28 11D3C18 11D3E28 11D3F18 11D4828 11D5018
11D5A28 11D6019 11D6628 11D6719 11D6928 11D6A19 11D8F28 11D9019 11D9228 11D9319 11D9928 11DA019
11DAA28 11DB027 11DDC28 11DE027 11DEA28 11EE019 11EF928 11F0024 11F1128 11F1224 11F3B28 11F3E24
11F5A26 11F5B28 11FB022 11FB128 11FC020 11FF228 11FFF20 1200008 1236F15 1239916 1239A28 1240008
1246315 1246F28 1247008 1247415 1247528 1248016 1254428 12F9023 12FF328 1300010 1342F24 1343020
1343924 1345628 1346026 143FB28 1440016 1464728 1610026 1613A28 1680011 16A3928 16A4015 16A5F28
16A6015 16A6A28 16A6E15 16A7023 16ABF28 16AC023 16ACA28 16AD015 16AEE28 16AF015 16AF628 16B0015
16B4628 16B5015 16B5A28 16B5B15 16B6228 16B6315 16B7828 16B7D15 16B9028 16D4026 16D7A28 16E4019
16E9B28 16EA027 16EB928 16EBB27 16ED428 16F0012 16F4520 16F4B28 16F4F20 16F5012 16F7F20 16F8828
16F8F12 16FA028 16FE017 16FE118 16FE220 16FE422 16FE528 16FF022 16FF227 16FF728 1700017 187ED19
187F220 187F827 1880017 18AF322 18CD628 18CFF26 18D0022 18D0927 18D1F28 18D8027 18DF328 1AFF023
1AFF428 1AFF523 1AFFC28 1AFFD23 1AFFF28 1B00011 1B00218 1B11F23 1B12328 1B13224 1B13328 1B15020
1B15328 1B15524 1B15628 1B16420 1B16828 1B17018 1B2FC28 1BC0015 1BC6B28 1BC7015 1BC7D28 1BC8015
1BC8928 1BC9015 1BC9A28 1BC9C15 1BCA428 1CC0026 1CCFA27 1CCFD28 1CD0026 1CEB428 1CEBA27 1CED128
1CEE027 1CEF128 1CF0023 1CF2E28 1CF3023 1CF4728 1CF5023 1CFC428 1D00004 1D0F628 1D10004 1D12728
1D12909 1D12A04 1D1DE16 1D1E923 1D1EB28 1D20007 1D24628 1D2C024 1D2D428 1D2E019 1D2F428 1D30006
1D35728 1D36008 1D37219 1D37928 1D40004 1D45528 1D45604 1D49D28 1D49E04 1D4A028 1D4A204 1D4A328
1D4A504 1D4A728 1D4A904 1D4AD28 1D4AE04 1D4BA28 1D4BB04 1D4BC28 1D4BD04 1D4C106 1D4C204 1D4C428
1D4C504 1D50628 1D50704 1D50B28 1D50D04 1D51528 1D51604 1D51D28 1D51E04 1D53A28 1D53B04 1D53F28
1D54004 1D54528 1D54604 1D54728 1D54A04 1D55128 1D55204 1D6A407 1D6A628 1D6A804 1D7CA08 1D7CC28
1D7CE04 1D80016 1DA8C28 1DA9B16 1DAA028 1DAA116 1DAB028 1DF0023 1DF1F28 1DF2524 1DF2B28 1E00017
1E00728 1E00817 1E01928 1E01B17 1E02228 1E02317 1E02528 1E02617 1E02B28 1E03024 1E06E28 1E08F24
1E09028 1E10020 1E12D28 1E13020 1E13E28 1E14020 1E14A28 1E14E20 1E15028 1E29023 1E2AF28 1E2C020
1E2FA28 1E2FF20 1E30028 1E4D024 1E4FA28 1E5D026 1E5FB28 1E5FF26 1E60028 1E6C027 1E6DF28 1E6E027
1E6F628 1E6FE27 1E70028 1E7E023 1E7E728 1E7E823 1E7EC28 1E7ED23 1E7EF28 1E7F023 1E7FF28 1E80015
1E8C528 1E8C715 1E8D728 1E90017 1E94B20 1E94C28 1E95017 1E95A28 1E95E17 1E96028 1EC7119 1ECB528
1ED0120 1ED3E28 1EE0012 1EE0428 1EE0512 1EE2028 1EE2112 1EE2328 1EE2412 1EE2528 1EE2712 1EE2828
1EE2912 1EE3328 1EE3412 1EE3828 1EE3912 1EE3A28 1EE3B12 1EE3C28 1EE4212 1EE4328 1EE4712 1EE4828
1EE4912 1EE4A28 1EE4B12 1EE4C28 1EE4D12 1EE5028 1EE5112 1EE5328 1EE5412 1EE5528 1EE5712 1EE5828
1EE5912 1EE5A28 1EE5B12 1EE5C28 1EE5D12 1EE5E28 1EE5F12 1EE6028 1EE6112 1EE6328 1EE6412 1EE6528
1EE6712 1EE6B28 1EE6C12 1EE7328 1EE7412 1EE7828 1EE7912 1EE7D28 1EE7E12 1EE7F28 1EE8012 1EE8A28
1EE8B12 1EE9C28 1EEA112 1EEA428 1EEA512 1EEAA28 1EEAB12 1EEBC28 1EEF012 1EEF228 1F00009 1F02C28
1F03009 1F09428 1F0A011 1F0AF28 1F0B111 1F0BF15 1F0C028 1F0C111 1F0D028 1F0D111 1F0E015 1F0F628
1F10010 1F10B15 1F10D22 1F11010 1F12F19 1F13011 1F13110 1F13211 1F13D10 1F13E11 1F13F10 1F14011
1F14210 1F14311 1F14610 1F14711 1F14A10 1F14F11 1F15710 1F15811 1F15F10 1F16011 1F16A12 1F16C20
1F16D22 1F17011 1F17910 1F17A11 1F17B10 1F17D11 1F17F10 1F18011 1F18A10 1F18E11 1F19010 1F19111
1F19B17 1F1AD22 1F1AE28 1F1E611 1F20010 1F20111 1F20328 1F21010 1F23211 1F23B17 1F23C28 1F24010
1F24928 1F25011 1F25228 1F26018 1F26628 1F30011 1F32115 1F32D16 1F33011 1F33615 1F33711 1F37D15
1F37E16 1F38011 1F39415 1F3A011 1F3C515 1F3C611 1F3CB15 1F3CF16 1F3D415 1F3E011 1F3F115 1F3F816
1F40011 1F43F15 1F44011 1F44115 1F44211 1F4F815 1F4F911 1F4FD15 1F4FF16 1F50011 1F53E15 1F54012
1F54415 1F54B16 1F55011 1F56815 1F57A17 1F57B15 1F5A417 1F5A515 1F5FB11 1F60012 1F60111 1F61112
1F61211 1F61512 1F61611 1F61712 1F61811 1F61912 1F61A11 1F61B12 1F61C11 1F61F12 1F62011 1F62612
1F62811 1F62C12 1F62D11 1F62E12 1F63011 1F63412 1F63511 1F64115 1F64316 1F64511 1F65015 1F68011
1F6C615 1F6D016 1F6D117 1F6D318 1F6D520 1F6D622 1F6D827 1F6D928 1F6DC24 1F6DD23 1F6E015 1F6ED28
1F6F015 1F6F417 1F6F718 1F6F919 1F6FA20 1F6FB22 1F6FD28 1F70011 1F77424 1F77727 1F77B24 1F78015
1F7D519 1F7D924 1F7DA28 1F7E020 1F7EC28 1F7F023 1F7F128 1F80015 1F80C28 1F81015 1F84828 1F85015
1F85A28 1F86015 1F88828 1F89015 1F8AE28 1F8B022 1F8B226 1F8BC28 1F8C026 1F8C228 1F8D027 1F8D928
1F90018 1F90C22 1F90D20 1F91016 1F91917 1F91F18 1F92017 1F92818 1F93017 1F93118 1F93317 1F93F20
1F94017 1F94C18 1F94D19 1F95017 1F95F18 1F96C19 1F97120 1F97222 1F97319 1F97722 1F97923 1F97A19
1F97B20 1F97C19 1F98016 1F98517 1F99218 1F99819 1F9A322 1F9A520 1F9AB22 1F9AE20 1F9B019 1F9BA20
1F9C016 1F9C119 1F9C320 1F9CB22 1F9CC23 1F9CD20 1F9D018 1F9E719 1FA0020 1FA5427 1FA5828 1FA6019
1FA6E28 1FA7020 1FA7422 1FA7524 1FA7820 1FA7B23 1FA7D28 1FA8020 1FA8322 1FA8724 1FA8926 1FA8A27
1FA8B28 1FA8E27 1FA8F26 1FA9020 1FA9622 1FAA923 1FAAD24 1FAB022 1FAB723 1FABB24 1FABE26 1FABF24
1FAC022 1FAC323 1FAC626 1FAC728 1FAC827 1FAC928 1FACD27 1FACE24 1FAD022 1FAD723 1FADA24 1FADC26
1FADD28 1FADF26 1FAE023 1FAE824 1FAE926 1FAEA27 1FAEB28 1FAEF27 1FAF023 1FAF724 1FAF928 1FB0022
1FB9328 1FB9422 1FBCB26 1FBF022 1FBFA27 1FBFB28 1FFFE01 2000004 2A6D722 2A6DE23 2A6E028 2A70010
2B73523 2B73924 2B73A27 2B74011 2B81E28 2B82016 2CEA227 2CEAE28 2CEB018 2EBE128 2EBF025 2EE5E28
2F80004 2FA1E28 2FFFE01 3000022 3134B28 3135024 323B027 3347A28 3FFFE01 4000028 4FFFE01 5000028
5FFFE01 6000028 6FFFE01 7000028 7FFFE01 8000028 8FFFE01 9000028 9FFFE01 A000028 AFFFE01 B000028
BFFFE01 C000028 CFFFE01 D000028 DFFFE01 E000028 E000104 E000228 E002004 E008028 E010006 E01F028
EFFFE01"

end OpPolicy.Text
