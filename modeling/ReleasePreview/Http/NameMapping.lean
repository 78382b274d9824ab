import ReleasePreview.Text.CharacterTable

/-! What the characters of a host name stand for: small letters for capitals, letters and digits for
their variants, full stops for other stops (Unicode 17.0). -/
namespace ReleasePreview.Http

/-- The characters beyond ASCII that stand for others, but not those of texts with a delimiter. -/
def mappingText : String :=
  "aa=61 b2*2=32+ b5=3bc b9=31 ba=6f bc*2*2=31+,2044,34 bd=31,2044,32 c0*17=e0+ d8*7=f8+
   100*18*2=101+ 130=69,307 132*2=69,6a 134*2*2=135+ 139*3*2=13a+ 13f*2=6c,b7 141*4*2=142+
   149=2bc,6e 14a*17*2=14b+ 178=ff 179*3*2=17a+ 17f=73 181=253 182*2*2=183+ 186=254 187=188
   189*2=256+ 18b=18c 18e=1dd 18f=259 190=25b 191=192 193=260 194=263 196=269 197=268 198=199
   19c=26f 19d=272 19f=275 1a0*3*2=1a1+ 1a6=280 1a7=1a8 1a9=283 1ac=1ad 1ae=288 1af=1b0 1b1*2=28a+
   1b3*2*2=1b4+ 1b7=292 1b8=1b9 1bc=1bd 1c4*3=64,17e 1c7*3=6c,6a 1ca*3=6e,6a 1cd*8*2=1ce+
   1de*9*2=1df+ 1f1*3=64,7a 1f4=1f5 1f6=195 1f7=1bf 1f8*14*2=1f9+ 220=19e 222*9*2=223+ 23a=2c65
   23b=23c 23d=19a 23e=2c66 241=242 243=180 244=289 245=28c 246*5*2=247+ 2b0*2*2=68+ 2b1=266 2b3=72
   2b4=279 2b5=27b 2b6=281 2b7=77 2b8=79 2e0=263 2e1=6c 2e2=73 2e3=78 2e4=295 345=3b9 370*2*2=371+
   376=377 37f=3f3 386=3ac 388*3=3ad+ 38c=3cc 38e*2=3cd+ 391*1b=3b1+ 3cf=3d7 3d0=3b2 3d1=3b8
   3d2=3c5 3d3=3cd 3d4=3cb 3d5=3c6 3d6=3c0 3d8*c*2=3d9+ 3f0=3ba 3f1=3c1 3f2=3c3 3f4=3b8 3f5=3b5
   3f7=3f8 3f9=3c3 3fa=3fb 3fd*3=37b+ 400*10=450+ 410*20=430+ 460*11*2=461+ 48a*1b*2=48b+ 4c0=4cf
   4c1*7*2=4c2+ 4d0*30*2=4d1+ 531*26=561+ 587=565,582 675=627,674 676*2*2=648+,674 677=6c7,674
   e33=e4d,e32 eb3=ecd,eb2 edc=eab,e99 edd=eab,ea1 f0c=f0b f77=fb2,f71,f80 f79=fb3,f71,f80
   10a0*2e=2d00+ 10fc=10dc 13f8*6=13f0+ 1c80=432 1c81=434 1c82=43e 1c83*2=441+ 1c85=442 1c86=44a
   1c87=463 1c88=a64b 1c89=1c8a 1c90*30=10d0+ 1d2c=61 1d2d=e6 1d2e*2*2=62+ 1d31*5*2=65+ 1d32=1dd
   1d34*4*2=68+ 1d3c=6f 1d3d=223 1d3e=70 1d3f=72 1d40*2=74+ 1d42=77 1d43=61 1d44*2=250+ 1d46=1d02
   1d47=62 1d48*2=64+ 1d4a=259 1d4b*2=25b+ 1d4d=67 1d4f=6b 1d50*2*2=6d+ 1d51=14b 1d53=254
   1d54*2=1d16+ 1d56=70 1d57*2=74+ 1d59=1d1d 1d5a=26f 1d5b=76 1d5c=1d25 1d5d*3=3b2+ 1d60*2=3c6+
   1d62=69 1d63=72 1d64*2=75+ 1d66*2=3b2+ 1d68=3c1 1d69*2=3c6+ 1d78=43d 1d9b=252 1d9c=63 1d9d=255
   1d9e=f0 1d9f=25c 1da0=66 1da1=25f 1da2=261 1da3=265 1da4*3=268+ 1da7=1d7b 1da8=29d 1da9=26d
   1daa=1d85 1dab=29f 1dac=271 1dad=270 1dae*4=272+ 1db2=278 1db3*2=282+ 1db5=1ab 1db6*2=289+
   1db8=1d1c 1db9*2=28b+ 1dbb=7a 1dbc*3=290+ 1dbf=3b8 1e00*4b*2=1e01+ 1e9a=61,2be 1e9b=1e61 1e9e=df
   1ea0*30*2=1ea1+ 1f08*8=1f00+ 1f18*6=1f10+ 1f28*8=1f20+ 1f38*8=1f30+ 1f48*6=1f40+ 1f59*7=1f51+
   1f68*8=1f60+ 1f80*8=1f00+,3b9 1f88*8=1f00+,3b9 1f90*8=1f20+,3b9 1f98*8=1f20+,3b9
   1fa0*8=1f60+,3b9 1fa8*8=1f60+,3b9 1fb2=1f70,3b9 1fb3=3b1,3b9 1fb4=3ac,3b9 1fb7=1fb6,3b9
   1fb8*2=1fb0+ 1fba=1f70 1fbb=3ac 1fbc=3b1,3b9 1fc2=1f74,3b9 1fc3=3b7,3b9 1fc4=3ae,3b9
   1fc7=1fc6,3b9 1fc8*2*2=1f72+ 1fc9=3ad 1fcb=3ae 1fcc=3b7,3b9 1fd8*2=1fd0+ 1fda=1f76 1fdb=3af
   1fe8*2=1fe0+ 1fea=1f7a 1feb=3cd 1fec=1fe5 1ff2=1f7c,3b9 1ff3=3c9,3b9 1ff4=3ce,3b9 1ff7=1ff6,3b9
   1ff8=1f78 1ff9*2*2=3cc+ 1ffa=1f7c 1ffc=3c9,3b9 2011=2010 2033=2032,2032 2034=2032,2032,2032
   2036=2035,2035 2037=2035,2035,2035 203c=21,21 2057=2032,2032,2032,2032 2070*5*2=30+ 2071=69
   2075*3*2=35+ 207a=2b 207b=2212 207c=3d 207d*2=28+ 207f=6e 2080*a=30+ 208a=2b 208b=2212 208c=3d
   208d*2=28+ 2090=61 2091=65 2092=6f 2093=78 2094=259 2095=68 2096*4=6b+ 209a=70 209b*2=73+
   20a8=72,73 2102=63 2103=b0,63 2107=25b 2109=b0,66 210a*2=67+ 210c*3=68 210f=127 2110*2=69
   2112*2=6c 2115=6e 2116=6e,6f 2119*3=70+ 211c*2=72 2120=73,6d 2121=74,65,6c 2122=74,6d 2124=7a
   2126=3c9 2128=7a 212a=6b 212b=e5 212c*2=62+ 212f*2=65 2131=66 2132=214e 2133=6d 2134=6f
   2135*4=5d0+ 2139=69 213b=66,61,78 213c=3c0 213d*2=3b3 213f=3c0 2140=2211 2145*2=64 2147=65
   2148*2=69+ 2150=31,2044,37 2151=31,2044,39 2152=31,2044,31,30 2153*2=31+,2044,33
   2155*4=31+,2044,35 2159*2*2=31,2044,36+ 215a=35,2044,36 215c=33,2044,38 215d=35,2044,38
   215e=37,2044,38 215f=31,2044 2160=69 2161=69,69 2162=69,69,69 2163=69,76 2164=76 2165=76,69
   2166=76,69,69 2167=76,69,69,69 2168=69,78 2169=78 216a=78,69 216b=78,69,69 216c=6c 216d*2=63+
   216f=6d 2170=69 2171=69,69 2172=69,69,69 2173=69,76 2174=76 2175=76,69 2176=76,69,69
   2177=76,69,69,69 2178=69,78 2179=78 217a=78,69 217b=78,69,69 217c=6c 217d*2=63+ 217f=6d
   2183=2184 2189=30,2044,33 222c=222b,222b 222d=222b,222b,222b 222f=222e,222e 2230=222e,222e,222e
   2460*9=31+ 2469*a=31,30+ 2473=32,30 2474*9=28,31+,29 247d*a=28,31,30+,29 2487=28,32,30,29
   249c*1a=28,61+,29 24b6*1a=61+ 24d0*1a=61+ 24ea=30 2a0c=222b,222b,222b,222b 2a75=3d,3d
   2a76=3d,3d,3d 2c00*30=2c30+ 2c60=2c61 2c62=26b 2c63=1d7d 2c64=27d 2c67*3*2=2c68+ 2c6d=251
   2c6e=271 2c6f=250 2c70=252 2c72=2c73 2c75=2c76 2c7c=6a 2c7d=76 2c7e*2=23f+ 2c80*32*2=2c81+
   2ceb*2*2=2cec+ 2cf2=2cf3 2d6f=2d61 2e9f=6bcd 2ef3=9f9f 2f00=4e00 2f01=4e28 2f02=4e36 2f03=4e3f
   2f04=4e59 2f05=4e85 2f06=4e8c 2f07=4ea0 2f08=4eba 2f09=513f 2f0a=5165 2f0b=516b 2f0c=5182
   2f0d=5196 2f0e=51ab 2f0f=51e0 2f10=51f5 2f11=5200 2f12=529b 2f13=52f9 2f14=5315 2f15=531a
   2f16=5338 2f17=5341 2f18=535c 2f19=5369 2f1a=5382 2f1b=53b6 2f1c=53c8 2f1d=53e3 2f1e=56d7
   2f1f=571f 2f20=58eb 2f21=5902 2f22=590a 2f23=5915 2f24=5927 2f25=5973 2f26=5b50 2f27=5b80
   2f28=5bf8 2f29=5c0f 2f2a=5c22 2f2b=5c38 2f2c=5c6e 2f2d=5c71 2f2e=5ddb 2f2f=5de5 2f30=5df1
   2f31=5dfe 2f32=5e72 2f33=5e7a 2f34=5e7f 2f35=5ef4 2f36=5efe 2f37=5f0b 2f38=5f13 2f39=5f50
   2f3a=5f61 2f3b=5f73 2f3c=5fc3 2f3d=6208 2f3e=6236 2f3f=624b 2f40=652f 2f41=6534 2f42=6587
   2f43=6597 2f44=65a4 2f45=65b9 2f46=65e0 2f47=65e5 2f48=66f0 2f49=6708 2f4a=6728 2f4b=6b20
   2f4c=6b62 2f4d=6b79 2f4e=6bb3 2f4f=6bcb 2f50=6bd4 2f51=6bdb 2f52=6c0f 2f53=6c14 2f54=6c34
   2f55=706b 2f56=722a 2f57=7236 2f58=723b 2f59=723f 2f5a=7247 2f5b=7259 2f5c=725b 2f5d=72ac
   2f5e=7384 2f5f=7389 2f60=74dc 2f61=74e6 2f62=7518 2f63=751f 2f64=7528 2f65=7530 2f66=758b
   2f67=7592 2f68=7676 2f69=767d 2f6a=76ae 2f6b=76bf 2f6c=76ee 2f6d=77db 2f6e=77e2 2f6f=77f3
   2f70=793a 2f71=79b8 2f72=79be 2f73=7a74 2f74=7acb 2f75=7af9 2f76=7c73 2f77=7cf8 2f78=7f36
   2f79=7f51 2f7a=7f8a 2f7b=7fbd 2f7c=8001 2f7d=800c 2f7e=8012 2f7f=8033 2f80=807f 2f81=8089
   2f82=81e3 2f83=81ea 2f84=81f3 2f85=81fc 2f86=820c 2f87=821b 2f88=821f 2f89=826e 2f8a=8272
   2f8b=8278 2f8c=864d 2f8d=866b 2f8e=8840 2f8f=884c 2f90=8863 2f91=897e 2f92=898b 2f93=89d2
   2f94=8a00 2f95=8c37 2f96=8c46 2f97=8c55 2f98=8c78 2f99=8c9d 2f9a=8d64 2f9b=8d70 2f9c=8db3
   2f9d=8eab 2f9e=8eca 2f9f=8f9b 2fa0=8fb0 2fa1=8fb5 2fa2=9091 2fa3=9149 2fa4=91c6 2fa5=91cc
   2fa6=91d1 2fa7=9577 2fa8=9580 2fa9=961c 2faa=96b6 2fab=96b9 2fac=96e8 2fad=9751 2fae=975e
   2faf=9762 2fb0=9769 2fb1=97cb 2fb2=97ed 2fb3=97f3 2fb4=9801 2fb5=98a8 2fb6=98db 2fb7=98df
   2fb8=9996 2fb9=9999 2fba=99ac 2fbb=9aa8 2fbc=9ad8 2fbd=9adf 2fbe=9b25 2fbf=9b2f 2fc0=9b32
   2fc1=9b3c 2fc2=9b5a 2fc3=9ce5 2fc4=9e75 2fc5=9e7f 2fc6=9ea5 2fc7=9ebb 2fc8=9ec3 2fc9=9ecd
   2fca=9ed1 2fcb=9ef9 2fcc=9efd 2fcd=9f0e 2fce=9f13 2fcf=9f20 2fd0=9f3b 2fd1=9f4a 2fd2=9f52
   2fd3=9f8d 2fd4=9f9c 2fd5=9fa0 3002=2e 3036=3012 3038=5341 3039*2=5344+ 309f=3088,308a
   30ff=30b3,30c8 3131*2=1100+ 3133*2*2=11aa+ 3134=1102 3136=11ad 3137*3=1103+ 313a*6=11b0+
   3140=111a 3141*3=1106+ 3144=1121 3145*a=1109+ 314f*15=1161+ 3165*2=1114+ 3167*2=11c7+ 3169=11cc
   316a=11ce 316b=11d3 316c=11d7 316d=11d9 316e=111c 316f=11dd 3170=11df 3171*2=111d+ 3173=1120
   3174*2=1122+ 3176=1127 3177=1129 3178*5=112b+ 317d=1132 317e=1136 317f=1140 3180=1147 3181=114c
   3182*2=11f1+ 3184*3=1157+ 3187*2=1184+ 3189=1188 318a*2=1191+ 318c=1194 318d=119e 318e=11a1
   3192=4e00 3193=4e8c 3194=4e09 3195=56db 3196=4e0a 3197=4e2d 3198=4e0b 3199=7532 319a=4e59
   319b=4e19 319c=4e01 319d=5929 319e=5730 319f=4eba 3200=28,1100,29 3201*2=28,1102+,29
   3203*3=28,1105+,29 3206=28,1109,29 3207*2=28,110b+,29 3209*5=28,110e+,29 320e=28,ac00,29
   320f=28,b098,29 3210=28,b2e4,29 3211=28,b77c,29 3212=28,b9c8,29 3213=28,bc14,29 3214=28,c0ac,29
   3215=28,c544,29 3216=28,c790,29 3217=28,cc28,29 3218=28,ce74,29 3219=28,d0c0,29 321a=28,d30c,29
   321b=28,d558,29 321c=28,c8fc,29 321d=28,c624,c804,29 321e=28,c624,d6c4,29 3220=28,4e00,29
   3221=28,4e8c,29 3222=28,4e09,29 3223=28,56db,29 3224=28,4e94,29 3225=28,516d,29 3226=28,4e03,29
   3227=28,516b,29 3228=28,4e5d,29 3229=28,5341,29 322a=28,6708,29 322b=28,706b,29 322c=28,6c34,29
   322d=28,6728,29 322e=28,91d1,29 322f=28,571f,29 3230=28,65e5,29 3231=28,682a,29 3232=28,6709,29
   3233=28,793e,29 3234=28,540d,29 3235=28,7279,29 3236=28,8ca1,29 3237=28,795d,29 3238=28,52b4,29
   3239=28,4ee3,29 323a=28,547c,29 323b=28,5b66,29 323c=28,76e3,29 323d=28,4f01,29 323e=28,8cc7,29
   323f=28,5354,29 3240=28,796d,29 3241=28,4f11,29 3242=28,81ea,29 3243=28,81f3,29 3244=554f
   3245=5e7c 3246=6587 3247=7b8f 3250=70,74,65 3251*9=32,31+ 325a*6=33,30+ 3260=1100 3261*2=1102+
   3263*3=1105+ 3266=1109 3267*2=110b+ 3269*5=110e+ 326e=ac00 326f=b098 3270=b2e4 3271=b77c
   3272=b9c8 3273=bc14 3274=c0ac 3275=c544 3276=c790 3277=cc28 3278=ce74 3279=d0c0 327a=d30c
   327b=d558 327c=cc38,ace0 327d=c8fc,c758 327e=c6b0 3280=4e00 3281=4e8c 3282=4e09 3283=56db
   3284=4e94 3285=516d 3286=4e03 3287=516b 3288=4e5d 3289=5341 328a=6708 328b=706b 328c=6c34
   328d=6728 328e=91d1 328f=571f 3290=65e5 3291=682a 3292=6709 3293=793e 3294=540d 3295=7279
   3296=8ca1 3297=795d 3298=52b4 3299=79d8 329a=7537 329b=5973 329c=9069 329d=512a 329e=5370
   329f=6ce8 32a0=9805 32a1=4f11 32a2=5199 32a3=6b63 32a4=4e0a 32a5=4e2d 32a6=4e0b 32a7=5de6
   32a8=53f3 32a9=533b 32aa=5b97 32ab=5b66 32ac=76e3 32ad=4f01 32ae=8cc7 32af=5354 32b0=591c
   32b1*4=33,36+ 32b5*a=34,30+ 32bf=35,30 32c0*9=31+,6708 32c9*3=31,30+,6708 32cc=68,67
   32cd=65,72,67 32ce=65,76 32cf=6c,74,64 32d0=30a2 32d1=30a4 32d2=30a6 32d3=30a8 32d4*2=30aa+
   32d6=30ad 32d7=30af 32d8=30b1 32d9=30b3 32da=30b5 32db=30b7 32dc=30b9 32dd=30bb 32de=30bd
   32df=30bf 32e0=30c1 32e1=30c4 32e2=30c6 32e3=30c8 32e4*6=30ca+ 32ea=30d2 32eb=30d5 32ec=30d8
   32ed=30db 32ee*5=30de+ 32f3=30e4 32f4=30e6 32f5*6=30e8+ 32fb*4=30ef+ 32ff=4ee4,548c
   3300=30a2,30d1,30fc,30c8 3301=30a2,30eb,30d5,30a1 3302=30a2,30f3,30da,30a2 3303=30a2,30fc,30eb
   3304=30a4,30cb,30f3,30b0 3305=30a4,30f3,30c1 3306=30a6,30a9,30f3 3307=30a8,30b9,30af,30fc,30c9
   3308=30a8,30fc,30ab,30fc 3309=30aa,30f3,30b9 330a=30aa,30fc,30e0 330b=30ab,30a4,30ea
   330c=30ab,30e9,30c3,30c8 330d=30ab,30ed,30ea,30fc 330e=30ac,30ed,30f3 330f=30ac,30f3,30de
   3310=30ae,30ac 3311=30ae,30cb,30fc 3312=30ad,30e5,30ea,30fc 3313=30ae,30eb,30c0,30fc
   3314=30ad,30ed 3315=30ad,30ed,30b0,30e9,30e0 3316=30ad,30ed,30e1,30fc,30c8,30eb
   3317=30ad,30ed,30ef,30c3,30c8 3318=30b0,30e9,30e0 3319=30b0,30e9,30e0,30c8,30f3
   331a=30af,30eb,30bc,30a4,30ed 331b=30af,30ed,30fc,30cd 331c=30b1,30fc,30b9 331d=30b3,30eb,30ca
   331e=30b3,30fc,30dd 331f=30b5,30a4,30af,30eb 3320=30b5,30f3,30c1,30fc,30e0
   3321=30b7,30ea,30f3,30b0 3322=30bb,30f3,30c1 3323=30bb,30f3,30c8 3324=30c0,30fc,30b9
   3325=30c7,30b7 3326=30c9,30eb 3327=30c8,30f3 3328=30ca,30ce 3329=30ce,30c3,30c8
   332a=30cf,30a4,30c4 332b=30d1,30fc,30bb,30f3,30c8 332c=30d1,30fc,30c4 332d=30d0,30fc,30ec,30eb
   332e=30d4,30a2,30b9,30c8,30eb 332f=30d4,30af,30eb 3330=30d4,30b3 3331=30d3,30eb
   3332=30d5,30a1,30e9,30c3,30c9 3333=30d5,30a3,30fc,30c8 3334=30d6,30c3,30b7,30a7,30eb
   3335=30d5,30e9,30f3 3336=30d8,30af,30bf,30fc,30eb 3337=30da,30bd 3338=30da,30cb,30d2
   3339=30d8,30eb,30c4 333a=30da,30f3,30b9 333b=30da,30fc,30b8 333c=30d9,30fc,30bf
   333d=30dd,30a4,30f3,30c8 333e=30dc,30eb,30c8 333f=30db,30f3 3340=30dd,30f3,30c9
   3341=30db,30fc,30eb 3342=30db,30fc,30f3 3343=30de,30a4,30af,30ed 3344=30de,30a4,30eb
   3345=30de,30c3,30cf 3346=30de,30eb,30af 3347=30de,30f3,30b7,30e7,30f3 3348=30df,30af,30ed,30f3
   3349=30df,30ea 334a=30df,30ea,30d0,30fc,30eb 334b=30e1,30ac 334c=30e1,30ac,30c8,30f3
   334d=30e1,30fc,30c8,30eb 334e=30e4,30fc,30c9 334f=30e4,30fc,30eb 3350=30e6,30a2,30f3
   3351=30ea,30c3,30c8,30eb 3352=30ea,30e9 3353=30eb,30d4,30fc 3354=30eb,30fc,30d6,30eb
   3355=30ec,30e0 3356=30ec,30f3,30c8,30b2,30f3 3357=30ef,30c3,30c8 3358*a=30+,70b9
   3362*a=31,30+,70b9 336c*5=32,30+,70b9 3371=68,70,61 3372=64,61 3373=61,75 3374=62,61,72
   3375=6f,76 3376=70,63 3377=64,6d 3378*2=64,6d,32+ 337a=69,75 337b=5e73,6210 337c=662d,548c
   337d=5927,6b63 337e=660e,6cbb 337f=682a,5f0f,4f1a,793e 3380=70,61 3381=6e,61 3382=3bc,61
   3383=6d,61 3384*2=6b,61+ 3386=6d,62 3387=67,62 3388=63,61,6c 3389=6b,63,61,6c 338a=70,66
   338b=6e,66 338c*2=3bc,66+ 338e=6d,67 338f=6b,67 3390=68,7a 3391=6b,68,7a 3392=6d,68,7a
   3393=67,68,7a 3394=74,68,7a 3395=3bc,6c 3396=6d,6c 3397=64,6c 3398=6b,6c 3399=66,6d 339a=6e,6d
   339b=3bc,6d 339c=6d,6d 339d=63,6d 339e=6b,6d 339f=6d,6d,32 33a0=63,6d,32 33a1=6d,32
   33a2=6b,6d,32 33a3=6d,6d,33 33a4=63,6d,33 33a5=6d,33 33a6=6b,6d,33 33a7=6d,2215,73
   33a8=6d,2215,73,32 33a9=70,61 33aa=6b,70,61 33ab=6d,70,61 33ac=67,70,61 33ad=72,61,64
   33ae=72,61,64,2215,73 33af=72,61,64,2215,73,32 33b0=70,73 33b1=6e,73 33b2=3bc,73 33b3=6d,73
   33b4=70,76 33b5=6e,76 33b6=3bc,76 33b7=6d,76 33b8=6b,76 33b9=6d,76 33ba=70,77 33bb=6e,77
   33bc=3bc,77 33bd=6d,77 33be=6b,77 33bf=6d,77 33c0=6b,3c9 33c1=6d,3c9 33c3=62,71 33c4*2=63,63+
   33c6=63,2215,6b,67 33c8=64,62 33c9=67,79 33ca=68,61 33cb=68,70 33cc=69,6e 33cd=6b,6b 33ce=6b,6d
   33cf=6b,74 33d0*2=6c,6d+ 33d2=6c,6f,67 33d3=6c,78 33d4=6d,62 33d5=6d,69,6c 33d6=6d,6f,6c
   33d7=70,68 33d9=70,70,6d 33da=70,72 33db=73,72 33dc=73,76 33dd=77,62 33de=76,2215,6d
   33df=61,2215,6d 33e0*9=31+,65e5 33e9*a=31,30+,65e5 33f3*a=32,30+,65e5 33fd*2=33,30+,65e5
   33ff=67,61,6c a640*17*2=a641+ a680*e*2=a681+ a69c=44a a69d=44c a722*7*2=a723+ a732*1f*2=a733+
   a770=a76f a779*2*2=a77a+ a77d=1d79 a77e*5*2=a77f+ a78b=a78c a78d=265 a790*2*2=a791+
   a796*a*2=a797+ a7aa=266 a7ab=25c a7ac=261 a7ad=26c a7ae=26a a7b0=29e a7b1=287 a7b2=29d a7b3=ab53
   a7b4*8*2=a7b5+ a7c4=a794 a7c5=282 a7c6=1d8e a7c7*2*2=a7c8+ a7cb=264 a7cc*8*2=a7cd+ a7dc=19b
   a7f1=73 a7f2=63 a7f3=66 a7f4=71 a7f5=a7f6 a7f8=127 a7f9=153 ab5c=a727 ab5d=ab37 ab5e=26b
   ab5f=ab52 ab69=28d ab70*50=13a0+ fb00=66,66 fb01=66,69 fb02=66,6c fb03=66,66,69 fb04=66,66,6c
   fb05*2=73,74 fb13=574,576 fb14=574,565 fb15*2*2=574,56b+ fb16=57e,576 fb20=5e2 fb21=5d0
   fb22*2=5d3+ fb24*3=5db+ fb27=5e8 fb28=5ea fb29=2b fb4f=5d0,5dc fb50*2=671 fb52*4=67b fb56*4=67e
   fb5a*4=680 fb5e*4=67a fb62*4=67f fb66*4=679 fb6a*4=6a4 fb6e*4=6a6 fb72*4=684 fb76*4=683
   fb7a*4=686 fb7e*4=687 fb82*2=68d fb84*2=68c fb86*2=68e fb88*2=688 fb8a*2=698 fb8c*2=691
   fb8e*4=6a9 fb92*4=6af fb96*4=6b3 fb9a*4=6b1 fb9e*2=6ba fba0*4=6bb fba4*2=6c0 fba6*4=6c1
   fbaa*4=6be fbae*2=6d2 fbb0*2=6d3 fbd3*4=6ad fbd7*2=6c7 fbd9*2=6c6 fbdb*2=6c8 fbdd=6c7,674
   fbde*2=6cb fbe0*2=6c5 fbe2*2=6c9 fbe4*4=6d0 fbe8*2=649 fbea*2=626,627 fbec*2=626,6d5
   fbee*2=626,648 fbf0*2=626,6c7 fbf2*2=626,6c6 fbf4*2=626,6c8 fbf6*3=626,6d0 fbf9*3=626,649
   fbfc*4=6cc fc00*2=626,62c+ fc02=626,645 fc03*2=626,649+ fc05*3=628,62c+ fc08=628,645
   fc09*2=628,649+ fc0b*3=62a,62c+ fc0e=62a,645 fc0f*2=62a,649+ fc11=62b,62c fc12=62b,645
   fc13*2=62b,649+ fc15=62c,62d fc16=62c,645 fc17=62d,62c fc18=62d,645 fc19*2=62e,62c+ fc1b=62e,645
   fc1c*3=633,62c+ fc1f*2*2=633+,645 fc20=635,62d fc22*3=636,62c+ fc25=636,645 fc26=637,62d
   fc27*2=637+,645 fc29=639,62c fc2a=639,645 fc2b=63a,62c fc2c=63a,645 fc2d*3=641,62c+ fc30=641,645
   fc31*2=641,649+ fc33=642,62d fc34=642,645 fc35*2=642,649+ fc37=643,627 fc38*3=643,62c+
   fc3b*2=643,644+ fc3d*2=643,649+ fc3f*3=644,62c+ fc42=644,645 fc43*2=644,649+ fc45*3=645,62c+
   fc48=645,645 fc49*2=645,649+ fc4b*3=646,62c+ fc4e=646,645 fc4f*2=646,649+ fc51=647,62c
   fc52=647,645 fc53*2=647,649+ fc55*3=64a,62c+ fc58=64a,645 fc59*2=64a,649+ fc5b*2=630+,670
   fc5d=649,670 fc64*2=626,631+ fc66*2=626,645+ fc68*2=626,649+ fc6a*2=628,631+ fc6c*2=628,645+
   fc6e*2=628,649+ fc70*2=62a,631+ fc72*2=62a,645+ fc74*2=62a,649+ fc76*2=62b,631+ fc78*2=62b,645+
   fc7a*2=62b,649+ fc7c*2=641,649+ fc7e*2=642,649+ fc80=643,627 fc81*2=643,644+ fc83*2=643,649+
   fc85=644,645 fc86*2=644,649+ fc88=645,627 fc89=645,645 fc8a*2=646,631+ fc8c*2=646,645+
   fc8e*2=646,649+ fc90=649,670 fc91*2=64a,631+ fc93*2=64a,645+ fc95*2=64a,649+ fc97*3=626,62c+
   fc9a=626,645 fc9b=626,647 fc9c*3=628,62c+ fc9f=628,645 fca0=628,647 fca1*3=62a,62c+ fca4=62a,645
   fca5=62a,647 fca6=62b,645 fca7=62c,62d fca8=62c,645 fca9=62d,62c fcaa=62d,645 fcab=62e,62c
   fcac=62e,645 fcad*3=633,62c+ fcb0=633,645 fcb1*2=635,62d+ fcb3=635,645 fcb4*3=636,62c+
   fcb7*2*2=636+,645 fcb8=637,62d fcba=639,62c fcbb=639,645 fcbc=63a,62c fcbd=63a,645
   fcbe*3=641,62c+ fcc1=641,645 fcc2=642,62d fcc3=642,645 fcc4*3=643,62c+ fcc7*2=643,644+
   fcc9*3=644,62c+ fccc=644,645 fccd=644,647 fcce*3=645,62c+ fcd1=645,645 fcd2*3=646,62c+
   fcd5=646,645 fcd6=646,647 fcd7=647,62c fcd8=647,645 fcd9=647,670 fcda*3=64a,62c+ fcdd=64a,645
   fcde=64a,647 fcdf*3*2=626+,645 fce0*3*2=626+,647 fce5=62b,645 fce6=62b,647 fce7=633,645
   fce8=633,647 fce9=634,645 fcea=634,647 fceb*2=643,644+ fced=644,645 fcee=646,645 fcef=646,647
   fcf0=64a,645 fcf1=64a,647 fcf2*3=640,64e+,651 fcf5*2=637,649+ fcf7*2=639,649+ fcf9*2=63a,649+
   fcfb*2=633,649+ fcfd*2=634,649+ fcff*2=62d,649+ fd01*2=62c,649+ fd03*2=62e,649+ fd05*2=635,649+
   fd07*2=636,649+ fd09*3=634,62c+ fd0c=634,645 fd0d=634,631 fd0e=633,631 fd0f*2=635+,631
   fd11*2=637,649+ fd13*2=639,649+ fd15*2=63a,649+ fd17*2=633,649+ fd19*2=634,649+ fd1b*2=62d,649+
   fd1d*2=62c,649+ fd1f*2=62e,649+ fd21*2=635,649+ fd23*2=636,649+ fd25*3=634,62c+ fd28=634,645
   fd29=634,631 fd2a=633,631 fd2b*2=635+,631 fd2d*3=634,62c+ fd30*2*2=634,645+ fd31=633,647
   fd33=637,645 fd34*3=633,62c+ fd37*3=634,62c+ fd3a*2=637+,645 fd3c*2=627,64b fd50=62a,62c,645
   fd51*2=62a,62d,62c fd53*2=62a,62d+,645 fd55*3=62a,645,62c+ fd58*2=62c,645,62d fd5a=62d,645,64a
   fd5b=62d,645,649 fd5c=633,62d,62c fd5d=633,62c,62d fd5e=633,62c,649 fd5f*2=633,645,62d
   fd61=633,645,62c fd62*2=633,645,645 fd64*2=635,62d,62d fd66=635,645,645 fd67*2=634,62d,645
   fd69=634,62c,64a fd6a*2=634,645,62e fd6c*2=634,645,645 fd6e=636,62d,649 fd6f*2=636,62e,645
   fd71*2=637,645,62d fd73=637,645,645 fd74=637,645,64a fd75=639,62c,645 fd76*2=639,645,645
   fd78=639,645,649 fd79=63a,645,645 fd7a=63a,645,64a fd7b=63a,645,649 fd7c*2=641,62e,645
   fd7e=642,645,62d fd7f=642,645,645 fd80=644,62d,645 fd81=644,62d,64a fd82=644,62d,649
   fd83*2=644,62c,62c fd85*2=644,62e,645 fd87*2=644,645,62d fd89=645,62d,62c fd8a=645,62d,645
   fd8b=645,62d,64a fd8c=645,62c,62d fd8d*2*2=645,62c+,645 fd8e=645,62e,62c fd92=645,62c,62e
   fd93=647,645,62c fd94=647,645,645 fd95=646,62d,645 fd96=646,62d,649 fd97*2=646,62c,645
   fd99=646,62c,649 fd9a=646,645,64a fd9b=646,645,649 fd9c*2=64a,645,645 fd9e=628,62e,64a
   fd9f*2*2=62a,62c+,64a fda0*2*2=62a,62c+,649 fda3*2*2=62a+,645,64a fda4=62a,645,649
   fda6=62c,62d,649 fda7=62c,645,649 fda8=633,62e,649 fda9=635,62d,64a fdaa=634,62d,64a
   fdab=636,62d,64a fdac=644,62c,64a fdad=644,645,64a fdae=64a,62d,64a fdaf=64a,62c,64a
   fdb0=64a,645,64a fdb1=645,645,64a fdb2=642,645,64a fdb3=646,62d,64a fdb4=642,645,62d
   fdb5=644,62d,645 fdb6=639,645,64a fdb7=643,645,64a fdb8=646,62c,62d fdb9=645,62e,64a
   fdba=644,62c,645 fdbb=643,645,645 fdbc=644,62c,645 fdbd=646,62c,62d fdbe=62c,62d,64a
   fdbf=62d,62c,64a fdc0=645,62c,64a fdc1=641,645,64a fdc2=628,62d,64a fdc3=643,645,645
   fdc4=639,62c,645 fdc5=635,645,645 fdc6=633,62e,64a fdc7=646,62c,64a fdf0=635,644,6d2
   fdf1=642,644,6d2 fdf2=627,644,644,647 fdf3=627,643,628,631 fdf4=645,62d,645,62f
   fdf5=635,644,639,645 fdf6=631,633,648,644 fdf7=639,644,64a,647 fdf8=648,633,644,645
   fdf9=635,644,649 fdfc=631,6cc,627,644 fe10=2c fe11=3001 fe14=3b fe15=21 fe17*2=3016+ fe31=2014
   fe32=2013 fe33*2=5f fe35*2=28+ fe39*2=3014+ fe3b*2=3010+ fe3d*2=300a+ fe3f*2=3008+ fe41*4=300c+
   fe4d*3=5f fe50=2c fe51=3001 fe54=3b fe57=21 fe58=2014 fe59*2=28+ fe5d*2=3014+ fe60=26 fe61*2=2a+
   fe63=2d fe64=3c fe65=3e fe66=3d fe69=24 fe71=640,64b fe77=640,64e fe79=640,64f fe7b=640,650
   fe7d=640,651 fe7f=640,652 fe80*2=621+ fe82*2=622+ fe84*2=623+ fe86*2=624+ fe88*2=625+ fe8a*3=626
   fe8d*2=627 fe8f*4=628 fe93*2=629 fe95*4=62a fe99*4=62b fe9d*4=62c fea1*4=62d fea5*4=62e
   fea9*2=62f feab*2=630 fead*2=631 feaf*2=632 feb1*4=633 feb5*4=634 feb9*4=635 febd*4=636
   fec1*4=637 fec5*4=638 fec9*4=639 fecd*4=63a fed1*4=641 fed5*4=642 fed9*4=643 fedd*4=644
   fee1*4=645 fee5*4=646 fee9*4=647 feed*2=648 feef*2=649 fef1*4=64a fef5*2=644,622
   fef7*3*2=644,623+ fef8*3*2=644,623+ ff01*1e=21+ ff21*1a=61+ ff3f*20=5f+ ff5f*2=2985+ ff61=2e
   ff62*2=300c+ ff64=3001 ff65=30fb ff66=30f2 ff67=30a1 ff68=30a3 ff69=30a5 ff6a=30a7 ff6b=30a9
   ff6c=30e3 ff6d=30e5 ff6e=30e7 ff6f=30c3 ff70=30fc ff71=30a2 ff72=30a4 ff73=30a6 ff74=30a8
   ff75*2=30aa+ ff77=30ad ff78=30af ff79=30b1 ff7a=30b3 ff7b=30b5 ff7c=30b7 ff7d=30b9 ff7e=30bb
   ff7f=30bd ff80=30bf ff81=30c1 ff82=30c4 ff83=30c6 ff84=30c8 ff85*6=30ca+ ff8b=30d2 ff8c=30d5
   ff8d=30d8 ff8e=30db ff8f*5=30de+ ff94=30e4 ff95=30e6 ff96*6=30e8+ ff9c=30ef ff9d=30f3
   ff9e*2=3099+ ffa1*2=1100+ ffa3*2*2=11aa+ ffa4=1102 ffa6=11ad ffa7*3=1103+ ffaa*6=11b0+ ffb0=111a
   ffb1*3=1106+ ffb4=1121 ffb5*a=1109+ ffc2*6=1161+ ffca*6=1167+ ffd2*6=116d+ ffda*3=1173+
   ffe0*2=a2+ ffe2=ac ffe4=a6 ffe5=a5 ffe6=20a9 ffe8=2502 ffe9*4=2190+ ffed=25a0 ffee=25cb
   10400*28=10428+ 104b0*24=104d8+ 10570*26=10597+ 10781*2=2d0+ 10783=e6 10784=299 10785=253
   10787*2*2=2a3+ 10788=ab66 1078a=2a4 1078b*2=256+ 1078d=1d91 1078e=258 1078f=25e 10790=2a9
   10791=264 10792=262 10793=260 10794=29b 10795=127 10796=29c 10797=267 10798=284 10799*2=2aa+
   1079b=26c 1079c=1df04 1079d=a78e 1079e=26e 1079f=1df05 107a0=28e 107a1=1df06 107a2=f8
   107a3*2=276+ 107a5=71 107a6=27a 107a7=1df08 107a8*2=27d+ 107aa=280 107ab=2a8 107ac=2a6
   107ad=ab67 107ae=2a7 107af=288 107b0=2c71 107b2=28f 107b3*2=2a1+ 107b5=298 107b6*3=1c0+
   107b9=1df0a 107ba=1df1e 10c80*33=10cc0+ 10d50*16=10d70+ 118a0*20=118c0+ 16e40*20=16e60+
   16ea0*19=16ebb+ 1ccd6*1a=61+ 1ccf0*a=30+ 1d400*1a=61+ 1d41a*1a=61+ 1d434*1a=61+ 1d44e*1a=61+
   1d468*1a=61+ 1d482*1a=61+ 1d49c*1a=61+ 1d4b6*1a=61+ 1d4d0*1a=61+ 1d4ea*1a=61+ 1d504*19=61+
   1d51e*1a=61+ 1d538*19=61+ 1d552*1a=61+ 1d56c*1a=61+ 1d586*1a=61+ 1d5a0*1a=61+ 1d5ba*1a=61+
   1d5d4*1a=61+ 1d5ee*1a=61+ 1d608*1a=61+ 1d622*1a=61+ 1d63c*1a=61+ 1d656*1a=61+ 1d670*1a=61+
   1d68a*1a=61+ 1d6a4=131 1d6a5=237 1d6a8*11=3b1+ 1d6b9=3b8 1d6ba*7=3c3+ 1d6c1=2207 1d6c2*11=3b1+
   1d6d3*2=3c3 1d6d5*6=3c4+ 1d6db=2202 1d6dc=3b5 1d6dd=3b8 1d6de=3ba 1d6df=3c6 1d6e0=3c1 1d6e1=3c0
   1d6e2*11=3b1+ 1d6f3=3b8 1d6f4*7=3c3+ 1d6fb=2207 1d6fc*11=3b1+ 1d70d*2=3c3 1d70f*6=3c4+
   1d715=2202 1d716=3b5 1d717=3b8 1d718=3ba 1d719=3c6 1d71a=3c1 1d71b=3c0 1d71c*11=3b1+ 1d72d=3b8
   1d72e*7=3c3+ 1d735=2207 1d736*11=3b1+ 1d747*2=3c3 1d749*6=3c4+ 1d74f=2202 1d750=3b5 1d751=3b8
   1d752=3ba 1d753=3c6 1d754=3c1 1d755=3c0 1d756*11=3b1+ 1d767=3b8 1d768*7=3c3+ 1d76f=2207
   1d770*11=3b1+ 1d781*2=3c3 1d783*6=3c4+ 1d789=2202 1d78a=3b5 1d78b=3b8 1d78c=3ba 1d78d=3c6
   1d78e=3c1 1d78f=3c0 1d790*11=3b1+ 1d7a1=3b8 1d7a2*7=3c3+ 1d7a9=2207 1d7aa*11=3b1+ 1d7bb*2=3c3
   1d7bd*6=3c4+ 1d7c3=2202 1d7c4=3b5 1d7c5=3b8 1d7c6=3ba 1d7c7=3c6 1d7c8=3c1 1d7c9=3c0 1d7ca*2=3dd
   1d7ce*a=30+ 1d7d8*a=30+ 1d7e2*a=30+ 1d7ec*a=30+ 1d7f6*a=30+ 1e030*9=430+ 1e039*3=43a+
   1e03c*b=43e+ 1e047=44b 1e048*2=44d+ 1e04a=a689 1e04b=4d9 1e04c=456 1e04d=458 1e04e=4e9 1e04f=4af
   1e050=4cf 1e051*9=430+ 1e05a*2=43a+ 1e05c*2=43e+ 1e05e=441 1e05f*6=443+ 1e065*2=44a+ 1e067=491
   1e068=456 1e069=455 1e06a=45f 1e06b=4ab 1e06c=a651 1e06d=4b1 1e900*22=1e922+ 1ee00*2=627+
   1ee02=62c 1ee03=62f 1ee05=648 1ee06=632 1ee07=62d 1ee08=637 1ee09=64a 1ee0a*4=643+ 1ee0e=633
   1ee0f=639 1ee10=641 1ee11=635 1ee12=642 1ee13=631 1ee14=634 1ee15*2=62a+ 1ee17=62e 1ee18=630
   1ee19=636 1ee1a=638 1ee1b=63a 1ee1c=66e 1ee1d=6ba 1ee1e=6a1 1ee1f=66f 1ee21=628 1ee22=62c
   1ee24=647 1ee27=62d 1ee29=64a 1ee2a*4=643+ 1ee2e=633 1ee2f=639 1ee30=641 1ee31=635 1ee32=642
   1ee34=634 1ee35*2=62a+ 1ee37=62e 1ee39=636 1ee3b=63a 1ee42=62c 1ee47=62d 1ee49=64a 1ee4b*3=644+
   1ee4e=633 1ee4f=639 1ee51=635 1ee52=642 1ee54=634 1ee57=62e 1ee59=636 1ee5b=63a 1ee5d=6ba
   1ee5f=66f 1ee61=628 1ee62=62c 1ee64=647 1ee67=62d 1ee68=637 1ee69=64a 1ee6a*4=643+ 1ee6e=633
   1ee6f=639 1ee70=641 1ee71=635 1ee72=642 1ee74=634 1ee75*2=62a+ 1ee77=62e 1ee79=636 1ee7a=638
   1ee7b=63a 1ee7c=66e 1ee7e=6a1 1ee80*2=627+ 1ee82=62c 1ee83=62f 1ee84*2=647+ 1ee86=632 1ee87=62d
   1ee88=637 1ee89=64a 1ee8b*3=644+ 1ee8e=633 1ee8f=639 1ee90=641 1ee91=635 1ee92=642 1ee93=631
   1ee94=634 1ee95*2=62a+ 1ee97=62e 1ee98=630 1ee99=636 1ee9a=638 1ee9b=63a 1eea1=628 1eea2=62c
   1eea3=62f 1eea5=648 1eea6=632 1eea7=62d 1eea8=637 1eea9=64a 1eeab*3=644+ 1eeae=633 1eeaf=639
   1eeb0=641 1eeb1=635 1eeb2=642 1eeb3=631 1eeb4=634 1eeb5*2=62a+ 1eeb7=62e 1eeb8=630 1eeb9=636
   1eeba=638 1eebb=63a 1f101*a=30+,2c 1f110*1a=28,61+,29 1f12a=3014,73,3015 1f12b=63 1f12c=72
   1f12d=63,64 1f12e=77,7a 1f130*1a=61+ 1f14a=68,76 1f14b=6d,76 1f14c=73,64 1f14d=73,73
   1f14e=70,70,76 1f14f=77,63 1f16a*2=6d,63+ 1f16c=6d,72 1f190=64,6a 1f200=307b,304b
   1f201=30b3,30b3 1f202=30b5 1f210=624b 1f211=5b57 1f212=53cc 1f213=30c7 1f214=4e8c 1f215=591a
   1f216=89e3 1f217=5929 1f218=4ea4 1f219=6620 1f21a=7121 1f21b=6599 1f21c=524d 1f21d=5f8c
   1f21e=518d 1f21f=65b0 1f220=521d 1f221=7d42 1f222=751f 1f223=8ca9 1f224=58f0 1f225=5439
   1f226=6f14 1f227=6295 1f228=6355 1f229=4e00 1f22a=4e09 1f22b=904a 1f22c=5de6 1f22d=4e2d
   1f22e=53f3 1f22f=6307 1f230=8d70 1f231=6253 1f232=7981 1f233=7a7a 1f234=5408 1f235=6e80
   1f236=6709 1f237=6708 1f238=7533 1f239=5272 1f23a=55b6 1f23b=914d 1f240=3014,672c,3015
   1f241=3014,4e09,3015 1f242=3014,4e8c,3015 1f243=3014,5b89,3015 1f244=3014,70b9,3015
   1f245=3014,6253,3015 1f246=3014,76d7,3015 1f247=3014,52dd,3015 1f248=3014,6557,3015 1f250=5f97
   1f251=53ef 1fbf0*a=30+"

def mapping : Text.CharacterTable := .ofText mappingText

end ReleasePreview.Http
