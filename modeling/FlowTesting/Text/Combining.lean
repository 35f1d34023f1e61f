import FlowTesting.Text.Table

set_option autoImplicit false

/-!
# Combining marks

Marks combine with the character before them, and those of different classes may change
places without a change of meaning. The tables cover the characters that a domain name
can hold.
-/

namespace FlowTesting.Text.Combining

/-- The code points at which being a mark begins or ends. -/
def markRows : List String := [
  "300 371 483 48b 591 5be 5bf 5c0 5c1 5c3 5c4 5c6 5c7 5d0 610 61b 64b 660 670 671 6d6 6de 6df",
  "6e5 6e7 6e9 6ea 6ee 711 712 730 74d 7a6 7b1 7eb 7f4 7fd 7fe 816 81a 81b 824 825 828 829 830",
  "859 85e 897 8a0 8ca 904 93a 93d 93e 950 951 960 962 964 981 985 9bc 9bd 9be 9ce 9d7 9e0 9e2",
  "9e6 9fe a05 a3c a5c a70 a72 a75 a76 a81 a85 abc abd abe ad0 ae2 ae6 afa b05 b3c b3d b3e b5f",
  "b62 b66 b82 b83 bbe bd0 bd7 be6 c00 c05 c3c c3d c3e c58 c62 c66 c81 c84 cbc cbd cbe cdc ce2",
  "ce6 cf3 d04 d3b d3d d3e d4e d57 d58 d62 d66 d81 d85 dca de6 df2 df4 e31 e32 e34 e3f e47 e4f",
  "eb1 eb2 eb4 ebd ec8 ed0 f18 f1a f35 f36 f37 f38 f39 f3a f3e f40 f71 f85 f86 f88 f8d fbe fc6",
  "fc7 102b 103f 1056 105a 105e 1061 1062 1065 1067 106e 1071 1075 1082 108e 108f 1090 109a 109e",
  "135d 1360 1712 171f 1732 1735 1752 1760 1772 1780 17b6 17d4 17dd 17e0 1885 1887 18a9 18aa",
  "1920 1940 1a17 1a1e 1a55 1a80 1ab0 1b05 1b34 1b45 1b6b 1b74 1b80 1b83 1ba1 1bae 1be6 1bfc",
  "1c24 1c3b 1cd0 1cd3 1cd4 1ce9 1ced 1cee 1cf4 1cf5 1cf7 1cfa 1dc0 1e01 20d0 2104 2cef 2cf3",
  "2d7f 2d80 2de0 2e00 302a 3030 3099 309d a66f a673 a674 a67e a69e a6a0 a6f0 a6f2 a802 a803",
  "a806 a807 a80b a80c a823 a828 a82c a830 a880 a882 a8b4 a8ce a8e0 a8f2 a8ff a900 a926 a92e",
  "a947 a95f a980 a984 a9b3 a9c1 a9e5 a9e6 aa29 aa40 aa43 aa44 aa4c aa50 aa7b aa7e aab0 aab1",
  "aab2 aab5 aab7 aab9 aabe aac0 aac1 aac2 aaeb aaf0 aaf5 ab01 abe3 abeb abec abf0 fb1e fbb2",
  "fe20 fe45 101fd 10280 102e0 102e1 10376 10380 10a01 10a10 10a38 10a40 10ae5 10aeb 10d24 10d30",
  "10d69 10d6e 10eab 10ead 10efa 10f00 10f46 10f51 10f82 10f86 11000 11003 11038 11047 11070",
  "11071 11073 11075 1107f 11083 110b0 110bb 110c2 110d0 11100 11103 11127 11136 11145 11147",
  "11173 11174 11180 11183 111b3 111c1 111c9 111cd 111ce 111d0 1122c 11238 1123e 1123f 11241",
  "11280 112df 112f0 11300 11305 1133b 1133d 1133e 11350 11357 1135d 11362 11380 113b8 113d1",
  "113d2 113d3 113e1 11400 11435 11447 1145e 1145f 114b0 114c4 115af 115c1 115dc 11600 11630",
  "11641 116ab 116b8 1171d 11730 1182c 1183b 11930 1193f 11940 11941 11942 11944 119d1 119e1",
  "119e4 11a00 11a01 11a0b 11a33 11a3a 11a3b 11a3f 11a47 11a50 11a51 11a5c 11a8a 11a9a 11b60",
  "11bc0 11c2f 11c40 11c92 11d00 11d31 11d46 11d47 11d50 11d8a 11d98 11ef3 11ef7 11f00 11f02",
  "11f03 11f04 11f34 11f43 11f5a 11fb0 13440 13441 13447 13460 1611e 16130 16af0 16af5 16b30",
  "16b37 16f4f 16f50 16f51 16f93 16fe4 16ff2 1bc9d 1bc9f 1cf00 1cf50 1d165 1d16a 1d16d 1d183",
  "1d185 1d18c 1d1aa 1d1ae 1d242 1d245 1da00 1da37 1da3b 1da6d 1da75 1da76 1da84 1da85 1da9b",
  "1df00 1e000 1e100 1e130 1e137 1e2ae 1e2c0 1e2ec 1e2f0 1e4ec 1e4f0 1e5ee 1e5f0 1e6e3 1e6e4",
  "1e6e6 1e6e7 1e6ee 1e6f0 1e6f5 1e6fe 1e8d0 1e922 1e944 1e94b"]

def markBoundaries : List Nat := Table.boundaries markRows

def isMark (character : Char) : Bool := Table.belongs markBoundaries character.toNat

/-- The code points from which on a class holds. -/
def classRows : List String := [
  "300=e6 315=e8 316=dc 31a=e8 31b=d8 31c=dc 321=ca 323=dc 327=ca 329=dc 334=1 339=dc 33d=e6",
  "347=dc 34a=e6 34d=dc 350=e6 353=dc 357=e6 358=e8 359=dc 35b=e6 35c=e9 35d=ea 35f=e9 360=ea",
  "362=e9 363=e6 371=0 483=e6 488=0 591=dc 592=e6 596=dc 597=e6 59a=de 59b=dc 59c=e6 5a2=dc",
  "5a8=e6 5aa=dc 5ab=e6 5ad=de 5ae=e4 5af=e6 5b0=a 5b1=b 5b2=c 5b3=d 5b4=e 5b5=f 5b6=10 5b7=11",
  "5b8=12 5b9=13 5bb=14 5bc=15 5bd=16 5be=0 5bf=17 5c0=0 5c1=18 5c2=19 5c3=0 5c4=e6 5c5=dc 5c6=0",
  "5c7=12 5d0=0 610=e6 618=1e 619=1f 61a=20 61b=0 64b=1b 64c=1c 64d=1d 64e=1e 64f=1f 650=20",
  "651=21 652=22 653=e6 655=dc 657=e6 65c=dc 65d=e6 65f=dc 660=0 670=23 671=0 6d6=e6 6de=0",
  "6df=e6 6e3=dc 6e4=e6 6e5=0 6e7=e6 6e9=0 6ea=dc 6eb=e6 6ed=dc 6ee=0 711=24 712=0 730=e6 731=dc",
  "732=e6 734=dc 735=e6 737=dc 73a=e6 73b=dc 73d=e6 73e=dc 73f=e6 742=dc 743=e6 744=dc 745=e6",
  "746=dc 747=e6 748=dc 749=e6 74d=0 7eb=e6 7f2=dc 7f3=e6 7f4=0 7fd=dc 7fe=0 816=e6 81a=0 81b=e6",
  "824=0 825=e6 828=0 829=e6 830=0 859=dc 85e=0 897=e6 899=dc 89c=e6 8a0=0 8ca=e6 8cf=dc 8d4=e6",
  "8e3=dc 8e4=e6 8e6=dc 8e7=e6 8e9=dc 8ea=e6 8ed=dc 8f0=1b 8f1=1c 8f2=1d 8f3=e6 8f6=dc 8f7=e6",
  "8f9=dc 8fb=e6 900=0 93c=7 93d=0 94d=9 94e=0 951=e6 952=dc 953=e6 955=0 9bc=7 9bd=0 9cd=9",
  "9ce=0 9fe=e6 a01=0 a3c=7 a3e=0 a4d=9 a51=0 abc=7 abd=0 acd=9 ad0=0 b3c=7 b3d=0 b4d=9 b55=0",
  "bcd=9 bd0=0 c3c=7 c3d=0 c4d=9 c55=54 c56=5b c58=0 cbc=7 cbd=0 ccd=9 cd5=0 d3b=9 d3d=0 d4d=9",
  "d4e=0 dca=9 dcf=0 e38=67 e3a=9 e3f=0 e48=6b e4c=0 eb8=76 eba=9 ebb=0 ec8=7a ecc=0 f18=dc",
  "f1a=0 f35=dc f36=0 f37=dc f38=0 f39=d8 f3a=0 f71=81 f72=82 f74=84 f7a=82 f7e=0 f80=82 f82=e6",
  "f84=9 f85=0 f86=e6 f88=0 fc6=dc fc7=0 1037=7 1038=0 1039=9 103b=0 108d=dc 108e=0 135d=e6",
  "1360=0 1714=9 171f=0 1734=9 1735=0 17d2=9 17d3=0 17dd=e6 17e0=0 18a9=e4 18aa=0 1939=de",
  "193a=e6 193b=dc 1940=0 1a17=e6 1a18=dc 1a19=0 1a60=9 1a61=0 1a75=e6 1a7f=dc 1a80=0 1ab0=e6",
  "1ab5=dc 1abb=e6 1abd=dc 1abe=0 1abf=dc 1ac1=e6 1ac3=dc 1ac5=e6 1aca=dc 1acb=e6 1add=dc",
  "1ae0=e6 1ae6=dc 1ae7=e6 1aeb=ea 1b00=0 1b34=7 1b35=0 1b44=9 1b45=0 1b6b=e6 1b6c=dc 1b6d=e6",
  "1b74=0 1baa=9 1bac=0 1be6=7 1be7=0 1bf2=9 1bfc=0 1c37=7 1c3b=0 1cd0=e6 1cd3=0 1cd4=1 1cd5=dc",
  "1cda=e6 1cdc=dc 1ce0=e6 1ce1=0 1ce2=1 1ce9=0 1ced=dc 1cee=0 1cf4=e6 1cf5=0 1cf8=e6 1cfa=0",
  "1dc0=e6 1dc2=dc 1dc3=e6 1dca=dc 1dcb=e6 1dcd=ea 1dce=d6 1dcf=dc 1dd0=ca 1dd1=e6 1df6=e8",
  "1df7=e4 1df9=dc 1dfa=da 1dfb=e6 1dfc=e9 1dfd=dc 1dfe=e6 1dff=dc 1e01=0 20d0=e6 20d2=1 20d4=e6",
  "20d8=1 20db=e6 20dd=0 20e1=e6 20e2=0 20e5=1 20e7=e6 20e8=dc 20e9=e6 20ea=1 20ec=dc 20f0=e6",
  "2104=0 2cef=e6 2cf3=0 2d7f=9 2d80=0 2de0=e6 2e00=0 302a=da 302b=e4 302c=e8 302d=de 302e=e0",
  "3030=0 3099=8 309d=0 a66f=e6 a670=0 a674=e6 a67e=0 a69e=e6 a6a0=0 a6f0=e6 a6f2=0 a806=9",
  "a807=0 a82c=9 a830=0 a8c4=9 a8c5=0 a8e0=e6 a8f2=0 a92b=dc a92e=0 a953=9 a95f=0 a9b3=7 a9b4=0",
  "a9c0=9 a9c1=0 aab0=e6 aab1=0 aab2=e6 aab4=dc aab5=0 aab7=e6 aab9=0 aabe=e6 aac0=0 aac1=e6",
  "aac2=0 aaf6=9 ab01=0 abed=9 abf0=0 fb1e=1a fbb2=0 fe20=e6 fe27=dc fe2e=e6 fe45=0 101fd=dc",
  "10280=0 102e0=dc 102e1=0 10376=e6 10380=0 10a0d=dc 10a0e=0 10a0f=e6 10a10=0 10a38=e6 10a39=1",
  "10a3a=dc 10a3f=9 10a40=0 10ae5=e6 10ae6=dc 10aeb=0 10d24=e6 10d30=0 10d69=e6 10d6e=0 10eab=e6",
  "10ead=0 10efa=dc 10efc=0 10efd=dc 10f00=0 10f46=dc 10f48=e6 10f4b=dc 10f4c=e6 10f4d=dc",
  "10f51=0 10f82=e6 10f83=dc 10f84=e6 10f85=dc 10f86=0 11046=9 11047=0 11070=9 11071=0 1107f=9",
  "11080=0 110b9=9 110ba=7 110bb=0 11100=e6 11103=0 11133=9 11136=0 11173=7 11174=0 111c0=9",
  "111c1=0 111ca=7 111cb=0 11235=9 11236=7 11237=0 112e9=7 112ea=9 112f0=0 1133b=7 1133d=0",
  "1134d=9 11350=0 11366=e6 11380=0 113ce=9 113d1=0 11442=9 11443=0 11446=7 11447=0 1145e=e6",
  "1145f=0 114c2=9 114c3=7 114c4=0 115bf=9 115c0=7 115c1=0 1163f=9 11640=0 116b6=9 116b7=7",
  "116b8=0 1172b=9 11730=0 11839=9 1183a=7 1183b=0 1193d=9 1193f=0 11943=7 11944=0 119e0=9",
  "119e1=0 11a34=9 11a35=0 11a47=9 11a50=0 11a99=9 11a9a=0 11c3f=9 11c40=0 11d42=7 11d43=0",
  "11d44=9 11d46=0 11d97=9 11d98=0 11f41=9 11f43=0 1612f=9 16130=0 16af0=1 16af5=0 16b30=e6",
  "16b37=0 16ff0=6 16ff2=0 1bc9e=1 1bc9f=0 1d165=d8 1d167=1 1d16a=0 1d16d=e2 1d16e=d8 1d17b=dc",
  "1d183=0 1d185=e6 1d18a=dc 1d18c=0 1d1aa=e6 1d1ae=0 1d242=e6 1d245=0 1e000=e6 1e100=0 1e130=e6",
  "1e137=0 1e2ae=e6 1e2c0=0 1e2ec=e6 1e2f0=0 1e4ec=e8 1e4ee=dc 1e4ef=e6 1e4f0=0 1e5ee=e6",
  "1e5ef=dc 1e5f0=0 1e6e3=e6 1e6e4=0 1e6e6=e6 1e6e7=0 1e6ee=e6 1e6f0=0 1e6f5=e6 1e6fe=0 1e8d0=dc",
  "1e922=0 1e944=e6 1e94a=7 1e94b=0"]

def classes : List (Nat × List Nat) := Table.sequences classRows

/-- The class of a character; that of one that combines with none is zero. -/
def classOf (character : Char) : Nat :=
  match (classes.takeWhile (fun run => run.1 ≤ character.toNat)).getLast? with
  | some (_, [found]) => found
  | _ => 0

/-- The class of the marks that take the vowel away from a consonant. -/
def viramaClass : Nat := 9

end FlowTesting.Text.Combining
