import Intercept.Unicode.Table

/-!
# Intercept.Unicode.Age -- versions

The version in which each code point was given its character. A pattern that asks for a version
means every character that was there by then.
-/

namespace Intercept.Unicode

/-- The versions that added characters, in their order. -/
def versions : List String :=
  ["v1.1", "v2.0", "v2.1", "v3.0", "v3.1", "v3.2", "v4.0", "v4.1", "v5.0", "v5.1", "v5.2",
    "v6.0", "v6.1", "v6.2", "v6.3", "v7.0", "v8.0", "v9.0", "v10.0", "v11.0", "v12.0", "v12.1",
    "v13.0", "v14.0", "v15.0", "v15.1", "v16.0"]

/-- The versions that added characters, each mark holding up to the next; a dash stands for code
points that have no character yet. -/
def versionTable : MarkTable := .ofText
  "0v1.1 1f6v3.0 1fav1.1 218v3.0 220v3.2 221v4.0 222v3.0 234v4.0 237v4.1 242v5.0 250v1.1 2a9v3.0
2aev4.0 2b0v1.1 2dfv3.0 2e0v1.1 2eav3.0 2efv4.0 300v1.1 346v3.0 34fv3.2 350v4.0 358v4.1 35dv4.0
360v1.1 362v3.0 363v3.2 370v5.1 374v1.1 376v5.1 378- 37av1.1 37bv5.0 37ev1.1 37fv7.0 380-
384v1.1 38b- 38cv1.1 38d- 38ev1.1 3a2- 3a3v1.1 3cfv5.1 3d0v1.1 3d7v3.0 3d8v3.2 3dav1.1 3dbv3.0
3dcv1.1 3ddv3.0 3dev1.1 3dfv3.0 3e0v1.1 3e1v3.0 3e2v1.1 3f4v3.1 3f6v3.2 3f7v4.0 3fcv4.1 400v3.0
401v1.1 40dv3.0 40ev1.1 450v3.0 451v1.1 45dv3.0 45ev1.1 487v5.1 488v3.0 48av3.2 48cv3.0 490v1.1
4c5v3.2 4c7v1.1 4c9v3.2 4cbv1.1 4cdv3.2 4cfv5.0 4d0v1.1 4ecv3.0 4eev1.1 4f6v4.1 4f8v1.1 4fav5.0
500v3.2 510v5.0 514v5.1 524v5.2 526v6.0 528v7.0 530- 531v1.1 557- 559v1.1 560v11.0 561v1.1
588v11.0 589v1.1 58av3.0 58b- 58dv7.0 58fv6.1 590- 591v2.0 5a2v4.1 5a3v2.0 5b0v1.1 5bav5.0
5bbv1.1 5c4v2.0 5c5v4.1 5c8- 5d0v1.1 5eb- 5efv11.0 5f0v1.1 5f5- 600v4.0 604v6.1 605v7.0 606v5.1
60bv4.1 60cv1.1 60dv4.0 616v5.1 61bv1.1 61cv6.3 61dv14.0 61ev4.1 61fv1.1 620v6.0 621v1.1 63bv5.1
640v1.1 653v3.0 656v4.0 659v4.1 65fv6.0 660v1.1 66ev3.2 670v1.1 6b8v3.0 6bav1.1 6bfv3.0 6c0v1.1
6cfv3.0 6d0v1.1 6eev4.0 6f0v1.1 6fav3.0 6ffv4.0 700v3.0 70e- 70fv3.0 72dv4.0 730v3.0 74b-
74dv4.0 750v4.1 76ev5.1 780v3.0 7b1v3.2 7b2- 7c0v5.0 7fb- 7fdv11.0 800v5.2 82e- 830v5.2 83f-
840v6.0 85c- 85ev6.0 85f- 860v10.0 86b- 870v14.0 88f- 890v14.0 892- 897v16.0 898v14.0 8a0v6.1
8a1v7.0 8a2v6.1 8adv7.0 8b3v8.0 8b5v14.0 8b6v9.0 8bev13.0 8c8v14.0 8d3v11.0 8d4v9.0 8e3v8.0
8e4v6.1 8ffv7.0 900v5.2 901v1.1 904v4.0 905v1.1 93av6.0 93cv1.1 94ev5.2 94fv6.0 950v1.1 955v5.2
956v6.0 958v1.1 971v5.1 973v6.0 978v7.0 979v5.2 97bv5.0 97dv4.1 97ev5.0 980v7.0 981v1.1 984-
985v1.1 98d- 98fv1.1 991- 993v1.1 9a9- 9aav1.1 9b1- 9b2v1.1 9b3- 9b6v1.1 9ba- 9bcv1.1 9bdv4.0
9bev1.1 9c5- 9c7v1.1 9c9- 9cbv1.1 9cev4.1 9cf- 9d7v1.1 9d8- 9dcv1.1 9de- 9dfv1.1 9e4- 9e6v1.1
9fbv5.2 9fcv10.0 9fev11.0 9ff- a01v4.0 a02v1.1 a03v4.0 a04- a05v1.1 a0b- a0fv1.1 a11- a13v1.1
a29- a2av1.1 a31- a32v1.1 a34- a35v1.1 a37- a38v1.1 a3a- a3cv1.1 a3d- a3ev1.1 a43- a47v1.1 a49-
a4bv1.1 a4e- a51v5.1 a52- a59v1.1 a5d- a5ev1.1 a5f- a66v1.1 a75v5.1 a76v11.0 a77- a81v1.1 a84-
a85v1.1 a8cv4.0 a8dv1.1 a8e- a8fv1.1 a92- a93v1.1 aa9- aaav1.1 ab1- ab2v1.1 ab4- ab5v1.1 aba-
abcv1.1 ac6- ac7v1.1 aca- acbv1.1 ace- ad0v1.1 ad1- ae0v1.1 ae1v4.0 ae4- ae6v1.1 af0v6.1 af1v4.0
af2- af9v8.0 afav10.0 b00- b01v1.1 b04- b05v1.1 b0d- b0fv1.1 b11- b13v1.1 b29- b2av1.1 b31-
b32v1.1 b34- b35v4.0 b36v1.1 b3a- b3cv1.1 b44v5.1 b45- b47v1.1 b49- b4bv1.1 b4e- b55v13.0
b56v1.1 b58- b5cv1.1 b5e- b5fv1.1 b62v5.1 b64- b66v1.1 b71v4.0 b72v6.0 b78- b82v1.1 b84- b85v1.1
b8b- b8ev1.1 b91- b92v1.1 b96- b99v1.1 b9b- b9cv1.1 b9d- b9ev1.1 ba0- ba3v1.1 ba5- ba8v1.1 bab-
baev1.1 bb6v4.1 bb7v1.1 bba- bbev1.1 bc3- bc6v1.1 bc9- bcav1.1 bce- bd0v5.1 bd1- bd7v1.1 bd8-
be6v4.1 be7v1.1 bf3v4.0 bfb- c00v7.0 c01v1.1 c04v11.0 c05v1.1 c0d- c0ev1.1 c11- c12v1.1 c29-
c2av1.1 c34v7.0 c35v1.1 c3a- c3cv14.0 c3dv5.1 c3ev1.1 c45- c46v1.1 c49- c4av1.1 c4e- c55v1.1
c57- c58v5.1 c5av8.0 c5b- c5dv14.0 c5e- c60v1.1 c62v5.1 c64- c66v1.1 c70- c77v12.0 c78v5.1
c80v9.0 c81v7.0 c82v1.1 c84v11.0 c85v1.1 c8d- c8ev1.1 c91- c92v1.1 ca9- caav1.1 cb4- cb5v1.1
cba- cbcv4.0 cbev1.1 cc5- cc6v1.1 cc9- ccav1.1 cce- cd5v1.1 cd7- cddv14.0 cdev1.1 cdf- ce0v1.1
ce2v5.0 ce4- ce6v1.1 cf0- cf1v5.0 cf3v15.0 cf4- d00v10.0 d01v7.0 d02v1.1 d04v13.0 d05v1.1 d0d-
d0ev1.1 d11- d12v1.1 d29v6.0 d2av1.1 d3av6.0 d3bv10.0 d3dv5.1 d3ev1.1 d44v5.1 d45- d46v1.1 d49-
d4av1.1 d4ev6.0 d4fv9.0 d50- d54v9.0 d57v1.1 d58v9.0 d5fv8.0 d60v1.1 d62v5.1 d64- d66v1.1
d70v5.1 d76v9.0 d79v5.1 d80- d81v13.0 d82v3.0 d84- d85v3.0 d97- d9av3.0 db2- db3v3.0 dbc-
dbdv3.0 dbe- dc0v3.0 dc7- dcav3.0 dcb- dcfv3.0 dd5- dd6v3.0 dd7- dd8v3.0 de0- de6v7.0 df0-
df2v3.0 df5- e01v1.1 e3b- e3fv1.1 e5c- e81v1.1 e83- e84v1.1 e85- e86v12.0 e87v1.1 e89v12.0
e8av1.1 e8b- e8cv12.0 e8dv1.1 e8ev12.0 e94v1.1 e98v12.0 e99v1.1 ea0v12.0 ea1v1.1 ea4- ea5v1.1
ea6- ea7v1.1 ea8v12.0 eaav1.1 eacv12.0 eadv1.1 ebav12.0 ebbv1.1 ebe- ec0v1.1 ec5- ec6v1.1 ec7-
ec8v1.1 ecev15.0 ecf- ed0v1.1 eda- edcv1.1 edev6.1 ee0- f00v2.0 f48- f49v2.0 f6av3.0 f6bv5.1
f6d- f71v2.0 f8cv6.0 f90v2.0 f96v3.0 f97v2.0 f98- f99v2.0 faev3.0 fb1v2.0 fb8v3.0 fb9v2.0
fbav3.0 fbd- fbev3.0 fcd- fcev5.1 fcfv3.0 fd0v4.1 fd2v5.1 fd5v5.2 fd9v6.0 fdb- 1000v3.0 1022v5.1
1023v3.0 1028v5.1 1029v3.0 102bv5.1 102cv3.0 1033v5.1 1036v3.0 103av5.1 1040v3.0 105av5.1
109av5.2 109ev5.1 10a0v1.1 10c6- 10c7v6.1 10c8- 10cdv6.1 10ce- 10d0v1.1 10f7v3.2 10f9v4.1
10fbv1.1 10fcv4.1 10fdv6.1 1100v1.1 115av5.2 115fv1.1 11a3v5.2 11a8v1.1 11fav5.2 1200v3.0
1207v4.1 1208v3.0 1247v4.1 1248v3.0 1249- 124av3.0 124e- 1250v3.0 1257- 1258v3.0 1259- 125av3.0
125e- 1260v3.0 1287v4.1 1288v3.0 1289- 128av3.0 128e- 1290v3.0 12afv4.1 12b0v3.0 12b1- 12b2v3.0
12b6- 12b8v3.0 12bf- 12c0v3.0 12c1- 12c2v3.0 12c6- 12c8v3.0 12cfv4.1 12d0v3.0 12d7- 12d8v3.0
12efv4.1 12f0v3.0 130fv4.1 1310v3.0 1311- 1312v3.0 1316- 1318v3.0 131fv4.1 1320v3.0 1347v4.1
1348v3.0 135b- 135dv6.0 135fv4.1 1361v3.0 137d- 1380v4.1 139a- 13a0v3.0 13f5v8.0 13f6- 13f8v8.0
13fe- 1400v5.2 1401v3.0 1677v5.2 1680v3.0 169d- 16a0v3.0 16f1v7.0 16f9- 1700v3.2 170dv14.0
170ev3.2 1715v14.0 1716- 171fv14.0 1720v3.2 1737- 1740v3.2 1754- 1760v3.2 176d- 176ev3.2 1771-
1772v3.2 1774- 1780v3.0 17ddv4.0 17de- 17e0v3.0 17ea- 17f0v4.0 17fa- 1800v3.0 180fv14.0 1810v3.0
181a- 1820v3.0 1878v11.0 1879- 1880v3.0 18aav5.1 18ab- 18b0v5.2 18f6- 1900v4.0 191dv7.0 191f-
1920v4.0 192c- 1930v4.0 193c- 1940v4.0 1941- 1944v4.0 196e- 1970v4.0 1975- 1980v4.1 19aav5.2
19ac- 19b0v4.1 19ca- 19d0v4.1 19dav5.2 19db- 19dev4.1 19e0v4.0 1a00v4.1 1a1c- 1a1ev4.1 1a20v5.2
1a5f- 1a60v5.2 1a7d- 1a7fv5.2 1a8a- 1a90v5.2 1a9a- 1aa0v5.2 1aae- 1ab0v7.0 1abfv13.0 1ac1v14.0
1acf- 1b00v5.0 1b4cv14.0 1b4d- 1b4ev16.0 1b50v5.0 1b7dv14.0 1b7fv16.0 1b80v5.1 1babv6.1 1baev5.1
1bbav6.1 1bc0v6.0 1bf4- 1bfcv6.0 1c00v5.1 1c38- 1c3bv5.1 1c4a- 1c4dv5.1 1c80v9.0 1c89v16.0 1c8b-
1c90v11.0 1cbb- 1cbdv11.0 1cc0v6.1 1cc8- 1cd0v5.2 1cf3v6.1 1cf7v10.0 1cf8v7.0 1cfav12.0 1cfb-
1d00v4.0 1d6cv4.1 1dc4v5.0 1dcbv5.1 1de7v7.0 1df6v10.0 1dfav14.0 1dfbv9.0 1dfcv6.0 1dfdv5.2
1dfev5.0 1e00v1.1 1e9bv2.0 1e9cv5.1 1ea0v1.1 1efav5.1 1f00v1.1 1f16- 1f18v1.1 1f1e- 1f20v1.1
1f46- 1f48v1.1 1f4e- 1f50v1.1 1f58- 1f59v1.1 1f5a- 1f5bv1.1 1f5c- 1f5dv1.1 1f5e- 1f5fv1.1 1f7e-
1f80v1.1 1fb5- 1fb6v1.1 1fc5- 1fc6v1.1 1fd4- 1fd6v1.1 1fdc- 1fddv1.1 1ff0- 1ff2v1.1 1ff5-
1ff6v1.1 1fff- 2000v1.1 202fv3.0 2030v1.1 2047v3.2 2048v3.0 204ev3.2 2053v4.0 2055v4.1 2057v3.2
2058v4.1 205fv3.2 2064v5.1 2065- 2066v6.3 206av1.1 2071v3.2 2072- 2074v1.1 208f- 2090v4.1
2095v6.0 209d- 20a0v1.1 20abv2.0 20acv2.1 20adv3.0 20b0v3.2 20b2v4.1 20b6v5.2 20b9v6.0 20bav6.2
20bbv7.0 20bev8.0 20bfv10.0 20c0v14.0 20c1- 20d0v1.1 20e2v3.0 20e4v3.2 20ebv4.1 20ecv5.0
20f0v5.1 20f1- 2100v1.1 2139v3.0 213bv4.0 213cv4.1 213dv3.2 214cv4.1 214dv5.0 214fv5.1 2150v5.2
2153v1.1 2183v3.0 2184v5.0 2185v5.1 2189v5.2 218av8.0 218c- 2190v1.1 21ebv3.0 21f4v3.2 2200v1.1
22f2v3.2 2300v1.1 2301v3.0 2302v1.1 237bv3.0 237cv3.2 237dv3.0 239bv3.2 23cfv4.0 23d1v4.1
23dcv5.0 23e8v5.2 23e9v6.0 23f4v7.0 23fbv9.0 23ffv10.0 2400v1.1 2425v3.0 2427v16.0 242a-
2440v1.1 244b- 2460v1.1 24ebv3.2 24ffv4.0 2500v1.1 2596v3.2 25a0v1.1 25f0v3.0 25f8v3.2 2600v1.1
2614v4.0 2616v3.2 2618v4.1 2619v3.0 261av1.1 2670v3.0 2672v3.2 267ev4.1 2680v3.2 268av4.0
2692v4.1 269dv5.1 269ev5.2 26a0v4.0 26a2v4.1 26b2v5.0 26b3v5.1 26bdv5.2 26c0v5.1 26c4v5.2
26cev6.0 26cfv5.2 26e2v6.0 26e3v5.2 26e4v6.0 26e8v5.2 2700v7.0 2701v1.1 2705v6.0 2706v1.1
270av6.0 270cv1.1 2728v6.0 2729v1.1 274cv6.0 274dv1.1 274ev6.0 274fv1.1 2753v6.0 2756v1.1
2757v5.2 2758v1.1 275fv6.0 2761v1.1 2768v3.2 2776v1.1 2795v6.0 2798v1.1 27b0v6.0 27b1v1.1
27bfv6.0 27c0v4.1 27c7v5.0 27cbv6.1 27ccv5.1 27cdv6.1 27cev6.0 27d0v3.2 27ecv5.1 27f0v3.2
2800v3.0 2900v3.2 2b00v4.0 2b0ev4.1 2b14v5.0 2b1bv5.1 2b20v5.0 2b24v5.1 2b4dv7.0 2b50v5.1
2b55v5.2 2b5av7.0 2b74- 2b76v7.0 2b96- 2b97v13.0 2b98v7.0 2bbav11.0 2bbdv7.0 2bc9v12.0 2bcav7.0
2bd2v10.0 2bd3v11.0 2becv8.0 2bf0v11.0 2bffv12.0 2c00v4.1 2c2fv14.0 2c30v4.1 2c5fv14.0 2c60v5.0
2c6dv5.1 2c70v5.2 2c71v5.1 2c74v5.0 2c78v5.1 2c7ev5.2 2c80v4.1 2cebv5.2 2cf2v6.1 2cf4- 2cf9v4.1
2d26- 2d27v6.1 2d28- 2d2dv6.1 2d2e- 2d30v4.1 2d66v6.1 2d68- 2d6fv4.1 2d70v6.0 2d71- 2d7fv6.0
2d80v4.1 2d97- 2da0v4.1 2da7- 2da8v4.1 2daf- 2db0v4.1 2db7- 2db8v4.1 2dbf- 2dc0v4.1 2dc7-
2dc8v4.1 2dcf- 2dd0v4.1 2dd7- 2dd8v4.1 2ddf- 2de0v5.1 2e00v4.1 2e18v5.1 2e1cv4.1 2e1ev5.1
2e31v5.2 2e32v6.1 2e3cv7.0 2e43v9.0 2e45v10.0 2e4av11.0 2e4fv12.0 2e50v13.0 2e53v14.0 2e5e-
2e80v3.0 2e9a- 2e9bv3.0 2ef4- 2f00v3.0 2fd6- 2ff0v3.0 2ffcv15.1 3000v1.1 3038v3.0 303bv3.2
303ev3.0 303fv1.1 3040- 3041v1.1 3095v3.2 3097- 3099v1.1 309fv3.2 30a1v1.1 30ffv3.2 3100-
3105v1.1 312dv5.1 312ev10.0 312fv11.0 3130- 3131v1.1 318f- 3190v1.1 31a0v3.0 31b8v6.0 31bbv13.0
31c0v4.1 31d0v5.1 31e4v16.0 31e6- 31efv15.1 31f0v3.2 3200v1.1 321dv4.0 321f- 3220v1.1 3244v5.2
3250v4.0 3251v3.2 3260v1.1 327cv4.0 327ev4.1 327fv1.1 32b1v3.2 32c0v1.1 32ccv4.0 32d0v1.1
32ffv12.1 3300v1.1 3377v4.0 337bv1.1 33dev4.0 33e0v1.1 33ffv4.0 3400v3.0 4db6v13.0 4dc0v4.0
4e00v1.1 9fa6v4.1 9fbcv5.1 9fc4v5.2 9fccv6.1 9fcdv8.0 9fd6v10.0 9febv11.0 9ff0v13.0 9ffdv14.0
a000v3.0 a48d- a490v3.0 a4a2v3.2 a4a4v3.0 a4b4v3.2 a4b5v3.0 a4c1v3.2 a4c2v3.0 a4c5v3.2 a4c6v3.0
a4c7- a4d0v5.2 a500v5.1 a62c- a640v5.1 a660v6.0 a662v5.1 a674v6.1 a67cv5.1 a698v7.0 a69ev8.0
a69fv6.1 a6a0v5.2 a6f8- a700v4.1 a717v5.0 a71bv5.1 a720v5.0 a722v5.1 a78dv6.0 a78fv8.0 a790v6.0
a792v6.1 a794v7.0 a7a0v6.0 a7aav6.1 a7abv7.0 a7aev9.0 a7afv11.0 a7b0v7.0 a7b2v8.0 a7b8v11.0
a7bav12.0 a7c0v14.0 a7c2v12.0 a7c7v13.0 a7cbv16.0 a7ce- a7d0v14.0 a7d2- a7d3v14.0 a7d4-
a7d5v14.0 a7dav16.0 a7dd- a7f2v14.0 a7f5v13.0 a7f7v7.0 a7f8v6.1 a7fav6.0 a7fbv5.1 a800v4.1
a82cv13.0 a82d- a830v5.2 a83a- a840v5.0 a878- a880v5.1 a8c5v9.0 a8c6- a8cev5.1 a8da- a8e0v5.2
a8fcv8.0 a8fev11.0 a900v5.1 a954- a95fv5.1 a960v5.2 a97d- a980v5.2 a9ce- a9cfv5.2 a9da- a9dev5.2
a9e0v7.0 a9ff- aa00v5.1 aa37- aa40v5.1 aa4e- aa50v5.1 aa5a- aa5cv5.1 aa60v5.2 aa7cv7.0 aa80v5.2
aac3- aadbv5.2 aae0v6.1 aaf7- ab01v6.0 ab07- ab09v6.0 ab0f- ab11v6.0 ab17- ab20v6.0 ab27-
ab28v6.0 ab2f- ab30v7.0 ab60v8.0 ab64v7.0 ab66v12.0 ab68v13.0 ab6c- ab70v8.0 abc0v5.2 abee-
abf0v5.2 abfa- ac00v2.0 d7a4- d7b0v5.2 d7c7- d7cbv5.2 d7fc- e000v1.1 fa2ev6.1 fa30v3.2 fa6bv5.2
fa6e- fa70v4.1 fada- fb00v1.1 fb07- fb13v1.1 fb18- fb1dv3.0 fb1ev1.1 fb37- fb38v1.1 fb3d-
fb3ev1.1 fb3f- fb40v1.1 fb42- fb43v1.1 fb45- fb46v1.1 fbb2v6.0 fbc2v14.0 fbc3- fbd3v1.1
fd40v14.0 fd50v1.1 fd90- fd92v1.1 fdc8- fdcfv14.0 fdd0v3.1 fdf0v1.1 fdfcv3.2 fdfdv4.0 fdfev14.0
fe00v3.2 fe10v4.1 fe1a- fe20v1.1 fe24v5.1 fe27v7.0 fe2ev8.0 fe30v1.1 fe45v3.2 fe47v4.0 fe49v1.1
fe53- fe54v1.1 fe67- fe68v1.1 fe6c- fe70v1.1 fe73v3.2 fe74v1.1 fe75- fe76v1.1 fefd- feffv1.1
ff00- ff01v1.1 ff5fv3.2 ff61v1.1 ffbf- ffc2v1.1 ffc8- ffcav1.1 ffd0- ffd2v1.1 ffd8- ffdav1.1
ffdd- ffe0v1.1 ffe7- ffe8v1.1 ffef- fff9v3.0 fffcv2.1 fffdv1.1 10000v4.0 1000c- 1000dv4.0 10027-
10028v4.0 1003b- 1003cv4.0 1003e- 1003fv4.0 1004e- 10050v4.0 1005e- 10080v4.0 100fb- 10100v4.0
10103- 10107v4.0 10134- 10137v4.0 10140v4.1 1018bv7.0 1018dv9.0 1018f- 10190v5.1 1019cv13.0
1019d- 101a0v7.0 101a1- 101d0v5.1 101fe- 10280v5.1 1029d- 102a0v5.1 102d1- 102e0v7.0 102fc-
10300v3.1 1031fv7.0 10320v3.1 10324- 1032dv10.0 10330v3.1 1034b- 10350v7.0 1037b- 10380v4.0
1039e- 1039fv4.0 103a0v4.1 103c4- 103c8v4.1 103d6- 10400v3.1 10426v4.0 10428v3.1 1044ev4.0
1049e- 104a0v4.0 104aa- 104b0v9.0 104d4- 104d8v9.0 104fc- 10500v7.0 10528- 10530v7.0 10564-
1056fv7.0 10570v14.0 1057b- 1057cv14.0 1058b- 1058cv14.0 10593- 10594v14.0 10596- 10597v14.0
105a2- 105a3v14.0 105b2- 105b3v14.0 105ba- 105bbv14.0 105bd- 105c0v16.0 105f4- 10600v7.0 10737-
10740v7.0 10756- 10760v7.0 10768- 10780v14.0 10786- 10787v14.0 107b1- 107b2v14.0 107bb-
10800v4.0 10806- 10808v4.0 10809- 1080av4.0 10836- 10837v4.0 10839- 1083cv4.0 1083d- 1083fv4.0
10840v5.2 10856- 10857v5.2 10860v7.0 1089f- 108a7v7.0 108b0- 108e0v8.0 108f3- 108f4v8.0 108f6-
108fbv8.0 10900v5.0 1091av5.2 1091c- 1091fv5.0 10920v5.1 1093a- 1093fv5.1 10940- 10980v6.1
109b8- 109bcv8.0 109bev6.1 109c0v8.0 109d0- 109d2v8.0 10a00v4.1 10a04- 10a05v4.1 10a07-
10a0cv4.1 10a14- 10a15v4.1 10a18- 10a19v4.1 10a34v11.0 10a36- 10a38v4.1 10a3b- 10a3fv4.1
10a48v11.0 10a49- 10a50v4.1 10a59- 10a60v5.2 10a80v7.0 10aa0- 10ac0v7.0 10ae7- 10aebv7.0 10af7-
10b00v5.2 10b36- 10b39v5.2 10b56- 10b58v5.2 10b73- 10b78v5.2 10b80v7.0 10b92- 10b99v7.0 10b9d-
10ba9v7.0 10bb0- 10c00v5.2 10c49- 10c80v8.0 10cb3- 10cc0v8.0 10cf3- 10cfav8.0 10d00v11.0 10d28-
10d30v11.0 10d3a- 10d40v16.0 10d66- 10d69v16.0 10d86- 10d8ev16.0 10d90- 10e60v5.2 10e7f-
10e80v13.0 10eaa- 10eabv13.0 10eae- 10eb0v13.0 10eb2- 10ec2v16.0 10ec5- 10efcv16.0 10efdv15.0
10f00v11.0 10f28- 10f30v11.0 10f5a- 10f70v14.0 10f8a- 10fb0v13.0 10fcc- 10fe0v12.0 10ff7-
11000v6.0 1104e- 11052v6.0 11070v14.0 11076- 1107fv7.0 11080v5.2 110c2v14.0 110c3- 110cdv11.0
110ce- 110d0v6.1 110e9- 110f0v6.1 110fa- 11100v6.1 11135- 11136v6.1 11144v11.0 11147v13.0 11148-
11150v7.0 11177- 11180v6.1 111c9v8.0 111cdv7.0 111cev13.0 111d0v6.1 111dav7.0 111dbv8.0 111e0-
111e1v7.0 111f5- 11200v7.0 11212- 11213v7.0 1123ev9.0 1123fv15.0 11242- 11280v8.0 11287-
11288v8.0 11289- 1128av8.0 1128e- 1128fv8.0 1129e- 1129fv8.0 112aa- 112b0v7.0 112eb- 112f0v7.0
112fa- 11300v8.0 11301v7.0 11304- 11305v7.0 1130d- 1130fv7.0 11311- 11313v7.0 11329- 1132av7.0
11331- 11332v7.0 11334- 11335v7.0 1133a- 1133bv11.0 1133cv7.0 11345- 11347v7.0 11349- 1134bv7.0
1134e- 11350v8.0 11351- 11357v7.0 11358- 1135dv7.0 11364- 11366v7.0 1136d- 11370v7.0 11375-
11380v16.0 1138a- 1138bv16.0 1138c- 1138ev16.0 1138f- 11390v16.0 113b6- 113b7v16.0 113c1-
113c2v16.0 113c3- 113c5v16.0 113c6- 113c7v16.0 113cb- 113ccv16.0 113d6- 113d7v16.0 113d9-
113e1v16.0 113e3- 11400v9.0 1145av13.0 1145bv9.0 1145c- 1145dv9.0 1145ev11.0 1145fv12.0
11460v13.0 11462- 11480v7.0 114c8- 114d0v7.0 114da- 11580v7.0 115b6- 115b8v7.0 115cav8.0 115de-
11600v7.0 11645- 11650v7.0 1165a- 11660v9.0 1166d- 11680v6.1 116b8v12.0 116b9v14.0 116ba-
116c0v6.1 116ca- 116d0v16.0 116e4- 11700v8.0 1171av11.0 1171b- 1171dv8.0 1172c- 11730v8.0
11740v14.0 11747- 11800v11.0 1183c- 118a0v7.0 118f3- 118ffv7.0 11900v13.0 11907- 11909v13.0
1190a- 1190cv13.0 11914- 11915v13.0 11917- 11918v13.0 11936- 11937v13.0 11939- 1193bv13.0 11947-
11950v13.0 1195a- 119a0v12.0 119a8- 119aav12.0 119d8- 119dav12.0 119e5- 11a00v10.0 11a48-
11a50v10.0 11a84v12.0 11a86v10.0 11a9dv11.0 11a9ev10.0 11aa3- 11ab0v14.0 11ac0v7.0 11af9-
11b00v15.0 11b0a- 11bc0v16.0 11be2- 11bf0v16.0 11bfa- 11c00v9.0 11c09- 11c0av9.0 11c37-
11c38v9.0 11c46- 11c50v9.0 11c6d- 11c70v9.0 11c90- 11c92v9.0 11ca8- 11ca9v9.0 11cb7- 11d00v10.0
11d07- 11d08v10.0 11d0a- 11d0bv10.0 11d37- 11d3av10.0 11d3b- 11d3cv10.0 11d3e- 11d3fv10.0 11d48-
11d50v10.0 11d5a- 11d60v11.0 11d66- 11d67v11.0 11d69- 11d6av11.0 11d8f- 11d90v11.0 11d92-
11d93v11.0 11d99- 11da0v11.0 11daa- 11ee0v11.0 11ef9- 11f00v15.0 11f11- 11f12v15.0 11f3b-
11f3ev15.0 11f5av16.0 11f5b- 11fb0v13.0 11fb1- 11fc0v12.0 11ff2- 11fffv12.0 12000v5.0 1236fv7.0
12399v8.0 1239a- 12400v5.0 12463v7.0 1246f- 12470v5.0 12474v7.0 12475- 12480v8.0 12544-
12f90v14.0 12ff3- 13000v5.2 1342fv15.0 13430v12.0 13439v15.0 13456- 13460v16.0 143fb- 14400v8.0
14647- 16100v16.0 1613a- 16800v6.0 16a39- 16a40v7.0 16a5f- 16a60v7.0 16a6a- 16a6ev7.0 16a70v14.0
16abf- 16ac0v14.0 16aca- 16ad0v7.0 16aee- 16af0v7.0 16af6- 16b00v7.0 16b46- 16b50v7.0 16b5a-
16b5bv7.0 16b62- 16b63v7.0 16b78- 16b7dv7.0 16b90- 16d40v16.0 16d7a- 16e40v11.0 16e9b- 16f00v6.1
16f45v12.0 16f4b- 16f4fv12.0 16f50v6.1 16f7fv12.0 16f88- 16f8fv6.1 16fa0- 16fe0v9.0 16fe1v10.0
16fe2v12.0 16fe4v13.0 16fe5- 16ff0v13.0 16ff2- 17000v9.0 187edv11.0 187f2v12.0 187f8- 18800v9.0
18af3v13.0 18cd6- 18cffv16.0 18d00v13.0 18d09- 1aff0v14.0 1aff4- 1aff5v14.0 1affc- 1affdv14.0
1afff- 1b000v6.0 1b002v10.0 1b11fv14.0 1b123- 1b132v15.0 1b133- 1b150v12.0 1b153- 1b155v15.0
1b156- 1b164v12.0 1b168- 1b170v10.0 1b2fc- 1bc00v7.0 1bc6b- 1bc70v7.0 1bc7d- 1bc80v7.0 1bc89-
1bc90v7.0 1bc9a- 1bc9cv7.0 1bca4- 1cc00v16.0 1ccfa- 1cd00v16.0 1ceb4- 1cf00v14.0 1cf2e-
1cf30v14.0 1cf47- 1cf50v14.0 1cfc4- 1d000v3.1 1d0f6- 1d100v3.1 1d127- 1d129v5.1 1d12av3.1
1d1dev8.0 1d1e9v14.0 1d1eb- 1d200v4.1 1d246- 1d2c0v15.0 1d2d4- 1d2e0v11.0 1d2f4- 1d300v4.0
1d357- 1d360v5.0 1d372v11.0 1d379- 1d400v3.1 1d455- 1d456v3.1 1d49d- 1d49ev3.1 1d4a0- 1d4a2v3.1
1d4a3- 1d4a5v3.1 1d4a7- 1d4a9v3.1 1d4ad- 1d4aev3.1 1d4ba- 1d4bbv3.1 1d4bc- 1d4bdv3.1 1d4c1v4.0
1d4c2v3.1 1d4c4- 1d4c5v3.1 1d506- 1d507v3.1 1d50b- 1d50dv3.1 1d515- 1d516v3.1 1d51d- 1d51ev3.1
1d53a- 1d53bv3.1 1d53f- 1d540v3.1 1d545- 1d546v3.1 1d547- 1d54av3.1 1d551- 1d552v3.1 1d6a4v4.1
1d6a6- 1d6a8v3.1 1d7cav5.0 1d7cc- 1d7cev3.1 1d800v8.0 1da8c- 1da9bv8.0 1daa0- 1daa1v8.0 1dab0-
1df00v14.0 1df1f- 1df25v15.0 1df2b- 1e000v9.0 1e007- 1e008v9.0 1e019- 1e01bv9.0 1e022- 1e023v9.0
1e025- 1e026v9.0 1e02b- 1e030v15.0 1e06e- 1e08fv15.0 1e090- 1e100v12.0 1e12d- 1e130v12.0 1e13e-
1e140v12.0 1e14a- 1e14ev12.0 1e150- 1e290v14.0 1e2af- 1e2c0v12.0 1e2fa- 1e2ffv12.0 1e300-
1e4d0v15.0 1e4fa- 1e5d0v16.0 1e5fb- 1e5ffv16.0 1e600- 1e7e0v14.0 1e7e7- 1e7e8v14.0 1e7ec-
1e7edv14.0 1e7ef- 1e7f0v14.0 1e7ff- 1e800v7.0 1e8c5- 1e8c7v7.0 1e8d7- 1e900v9.0 1e94bv12.0
1e94c- 1e950v9.0 1e95a- 1e95ev9.0 1e960- 1ec71v11.0 1ecb5- 1ed01v12.0 1ed3e- 1ee00v6.1 1ee04-
1ee05v6.1 1ee20- 1ee21v6.1 1ee23- 1ee24v6.1 1ee25- 1ee27v6.1 1ee28- 1ee29v6.1 1ee33- 1ee34v6.1
1ee38- 1ee39v6.1 1ee3a- 1ee3bv6.1 1ee3c- 1ee42v6.1 1ee43- 1ee47v6.1 1ee48- 1ee49v6.1 1ee4a-
1ee4bv6.1 1ee4c- 1ee4dv6.1 1ee50- 1ee51v6.1 1ee53- 1ee54v6.1 1ee55- 1ee57v6.1 1ee58- 1ee59v6.1
1ee5a- 1ee5bv6.1 1ee5c- 1ee5dv6.1 1ee5e- 1ee5fv6.1 1ee60- 1ee61v6.1 1ee63- 1ee64v6.1 1ee65-
1ee67v6.1 1ee6b- 1ee6cv6.1 1ee73- 1ee74v6.1 1ee78- 1ee79v6.1 1ee7d- 1ee7ev6.1 1ee7f- 1ee80v6.1
1ee8a- 1ee8bv6.1 1ee9c- 1eea1v6.1 1eea4- 1eea5v6.1 1eeaa- 1eeabv6.1 1eebc- 1eef0v6.1 1eef2-
1f000v5.1 1f02c- 1f030v5.1 1f094- 1f0a0v6.0 1f0af- 1f0b1v6.0 1f0bfv7.0 1f0c0- 1f0c1v6.0 1f0d0-
1f0d1v6.0 1f0e0v7.0 1f0f6- 1f100v5.2 1f10bv7.0 1f10dv13.0 1f110v5.2 1f12fv11.0 1f130v6.0
1f131v5.2 1f132v6.0 1f13dv5.2 1f13ev6.0 1f13fv5.2 1f140v6.0 1f142v5.2 1f143v6.0 1f146v5.2
1f147v6.0 1f14av5.2 1f14fv6.0 1f157v5.2 1f158v6.0 1f15fv5.2 1f160v6.0 1f16av6.1 1f16cv12.0
1f16dv13.0 1f170v6.0 1f179v5.2 1f17av6.0 1f17bv5.2 1f17dv6.0 1f17fv5.2 1f180v6.0 1f18av5.2
1f18ev6.0 1f190v5.2 1f191v6.0 1f19bv9.0 1f1adv13.0 1f1ae- 1f1e6v6.0 1f200v5.2 1f201v6.0 1f203-
1f210v5.2 1f232v6.0 1f23bv9.0 1f23c- 1f240v5.2 1f249- 1f250v6.0 1f252- 1f260v10.0 1f266-
1f300v6.0 1f321v7.0 1f32dv8.0 1f330v6.0 1f336v7.0 1f337v6.0 1f37dv7.0 1f37ev8.0 1f380v6.0
1f394v7.0 1f3a0v6.0 1f3c5v7.0 1f3c6v6.0 1f3cbv7.0 1f3cfv8.0 1f3d4v7.0 1f3e0v6.0 1f3f1v7.0
1f3f8v8.0 1f400v6.0 1f43fv7.0 1f440v6.0 1f441v7.0 1f442v6.0 1f4f8v7.0 1f4f9v6.0 1f4fdv7.0
1f4ffv8.0 1f500v6.0 1f53ev7.0 1f540v6.1 1f544v7.0 1f54bv8.0 1f550v6.0 1f568v7.0 1f57av9.0
1f57bv7.0 1f5a4v9.0 1f5a5v7.0 1f5fbv6.0 1f600v6.1 1f601v6.0 1f611v6.1 1f612v6.0 1f615v6.1
1f616v6.0 1f617v6.1 1f618v6.0 1f619v6.1 1f61av6.0 1f61bv6.1 1f61cv6.0 1f61fv6.1 1f620v6.0
1f626v6.1 1f628v6.0 1f62cv6.1 1f62dv6.0 1f62ev6.1 1f630v6.0 1f634v6.1 1f635v6.0 1f641v7.0
1f643v8.0 1f645v6.0 1f650v7.0 1f680v6.0 1f6c6v7.0 1f6d0v8.0 1f6d1v9.0 1f6d3v10.0 1f6d5v12.0
1f6d6v13.0 1f6d8- 1f6dcv15.0 1f6ddv14.0 1f6e0v7.0 1f6ed- 1f6f0v7.0 1f6f4v9.0 1f6f7v10.0
1f6f9v11.0 1f6fav12.0 1f6fbv13.0 1f6fd- 1f700v6.0 1f774v15.0 1f777- 1f77bv15.0 1f780v7.0
1f7d5v11.0 1f7d9v15.0 1f7da- 1f7e0v12.0 1f7ec- 1f7f0v14.0 1f7f1- 1f800v7.0 1f80c- 1f810v7.0
1f848- 1f850v7.0 1f85a- 1f860v7.0 1f888- 1f890v7.0 1f8ae- 1f8b0v13.0 1f8b2v16.0 1f8bc-
1f8c0v16.0 1f8c2- 1f900v10.0 1f90cv13.0 1f90dv12.0 1f910v8.0 1f919v9.0 1f91fv10.0 1f920v9.0
1f928v10.0 1f930v9.0 1f931v10.0 1f933v9.0 1f93fv12.0 1f940v9.0 1f94cv10.0 1f94dv11.0 1f950v9.0
1f95fv10.0 1f96cv11.0 1f971v12.0 1f972v13.0 1f973v11.0 1f977v13.0 1f979v14.0 1f97av11.0
1f97bv12.0 1f97cv11.0 1f980v8.0 1f985v9.0 1f992v10.0 1f998v11.0 1f9a3v13.0 1f9a5v12.0 1f9abv13.0
1f9aev12.0 1f9b0v11.0 1f9bav12.0 1f9c0v8.0 1f9c1v11.0 1f9c3v12.0 1f9cbv13.0 1f9ccv14.0
1f9cdv12.0 1f9d0v10.0 1f9e7v11.0 1fa00v12.0 1fa54- 1fa60v11.0 1fa6e- 1fa70v12.0 1fa74v13.0
1fa75v15.0 1fa78v12.0 1fa7bv14.0 1fa7d- 1fa80v12.0 1fa83v13.0 1fa87v15.0 1fa89v16.0 1fa8a-
1fa8fv16.0 1fa90v12.0 1fa96v13.0 1faa9v14.0 1faadv15.0 1fab0v13.0 1fab7v14.0 1fabbv15.0
1fabev16.0 1fabfv15.0 1fac0v13.0 1fac3v14.0 1fac6v16.0 1fac7- 1facev15.0 1fad0v13.0 1fad7v14.0
1fadav15.0 1fadcv16.0 1fadd- 1fadfv16.0 1fae0v14.0 1fae8v15.0 1fae9v16.0 1faea- 1faf0v14.0
1faf7v15.0 1faf9- 1fb00v13.0 1fb93- 1fb94v13.0 1fbcbv16.0 1fbf0v13.0 1fbfa- 1fffev2.0 20000v3.1
2a6d7v13.0 2a6dev14.0 2a6e0- 2a700v5.2 2b735v14.0 2b739v15.0 2b73a- 2b740v6.0 2b81e- 2b820v8.0
2cea2- 2ceb0v10.0 2ebe1- 2ebf0v15.1 2ee5e- 2f800v3.1 2fa1e- 2fffev2.0 30000v13.0 3134b-
31350v15.0 323b0- 3fffev2.0 40000- 4fffev2.0 50000- 5fffev2.0 60000- 6fffev2.0 70000- 7fffev2.0
80000- 8fffev2.0 90000- 9fffev2.0 a0000- afffev2.0 b0000- bfffev2.0 c0000- cfffev2.0 d0000-
dfffev2.0 e0000- e0001v3.1 e0002- e0020v3.1 e0080- e0100v4.0 e01f0- efffev2.0"

/-- How many versions there were before the one that added a character. -/
def age (c : Char) : Nat :=
  versions.idxOf (versionTable.label c.toNat)

/-- The place of the version with a squeezed name such as `v151` or `15.1`. -/
def versionIndex? (name : String) : Option Nat :=
  versions.findIdx? fun v =>
    v.toList.drop 1 == name.toList || v.toList.filter (· != '.') == name.toList

end Intercept.Unicode
