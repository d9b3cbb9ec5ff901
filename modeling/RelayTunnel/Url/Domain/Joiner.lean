import RelayTunnel.Url.Domain.Composition

/-!
# Joiners and marks in labels

A label begins with no mark. The joiner and the non-joiner may stand behind a sign
that takes the vowel of a letter away, and the non-joiner between letters that would
be joined in writing. The tables are those of Unicode for the characters that stand
for themselves in domains.
-/

namespace RelayTunnel

namespace Joiner

/-- The marks in steps, by one, and all others by zero. -/
def markTable : String :=
  "300=1 371=0 483=1 48b=0 591=1 5be=0 5bf=1 5c0=0 5c1=1 5c3=0 5c4=1 5c6=0 5c7=1 5d0=0 610=1
   61b=0 64b=1 660=0 670=1 671=0 6d6=1 6de=0 6df=1 6e5=0 6e7=1 6e9=0 6ea=1 6ee=0 711=1 712=0
   730=1 74d=0 7a6=1 7b1=0 7eb=1 7f4=0 7fd=1 7fe=0 816=1 81a=0 81b=1 824=0 825=1 828=0 829=1
   830=0 859=1 85e=0 898=1 8a0=0 8ca=1 904=0 93a=1 93d=0 93e=1 950=0 951=1 960=0 962=1 964=0
   981=1 985=0 9bc=1 9bd=0 9be=1 9ce=0 9d7=1 9e0=0 9e2=1 9e6=0 9fe=1 a05=0 a3c=1 a5c=0 a70=1
   a72=0 a75=1 a76=0 a81=1 a85=0 abc=1 abd=0 abe=1 ad0=0 ae2=1 ae6=0 afa=1 b05=0 b3c=1 b3d=0
   b3e=1 b5f=0 b62=1 b66=0 b82=1 b83=0 bbe=1 bd0=0 bd7=1 be6=0 c00=1 c05=0 c3c=1 c3d=0 c3e=1
   c58=0 c62=1 c66=0 c81=1 c84=0 cbc=1 cbd=0 cbe=1 cdc=0 ce2=1 ce6=0 d00=1 d04=0 d3b=1 d3d=0
   d3e=1 d4e=0 d57=1 d58=0 d62=1 d66=0 d81=1 d85=0 dca=1 de6=0 df2=1 df4=0 e31=1 e32=0 e34=1
   e3f=0 e47=1 e4f=0 eb1=1 eb2=0 eb4=1 ebd=0 ec8=1 ece=0 f18=1 f1a=0 f35=1 f36=0 f37=1 f38=0
   f39=1 f3a=0 f3e=1 f40=0 f71=1 f85=0 f86=1 f88=0 f8d=1 fbe=0 fc6=1 fc7=0 102b=1 103f=0 1056=1
   105a=0 105e=1 1061=0 1062=1 1065=0 1067=1 106e=0 1071=1 1075=0 1082=1 108e=0 108f=1 1090=0
   109a=1 109e=0 135d=1 1360=0 1712=1 171f=0 1732=1 1735=0 1752=1 1760=0 1772=1 1780=0 17b6=1
   17d4=0 17dd=1 17e0=0 1885=1 1887=0 18a9=1 18aa=0 1920=1 1940=0 1a17=1 1a1e=0 1a55=1 1a80=0
   1ab0=1 1acf=0 1b00=1 1b05=0 1b34=1 1b45=0 1b6b=1 1b74=0 1b80=1 1b83=0 1ba1=1 1bae=0 1be6=1
   1bfc=0 1c24=1 1c3b=0 1cd0=1 1cd3=0 1cd4=1 1ce9=0 1ced=1 1cee=0 1cf4=1 1cf5=0 1cf7=1 1cfa=0
   1dc0=1 1e01=0 20d0=1 2104=0 2cef=1 2cf3=0 2d7f=1 2d80=0 2de0=1 2e00=0 302a=1 3030=0 3099=1
   309d=0 a66f=1 a673=0 a674=1 a67e=0 a69e=1 a6a0=0 a6f0=1 a6f2=0 a802=1 a803=0 a806=1 a807=0
   a80b=1 a80c=0 a823=1 a828=0 a82c=1 a830=0 a880=1 a882=0 a8b4=1 a8ce=0 a8e0=1 a8f2=0 a8ff=1
   a900=0 a926=1 a92e=0 a947=1 a95f=0 a980=1 a984=0 a9b3=1 a9c1=0 a9e5=1 a9e6=0 aa29=1 aa40=0
   aa43=1 aa44=0 aa4c=1 aa50=0 aa7b=1 aa7e=0 aab0=1 aab1=0 aab2=1 aab5=0 aab7=1 aab9=0 aabe=1
   aac0=0 aac1=1 aac2=0 aaeb=1 aaf0=0 aaf5=1 ab01=0 abe3=1 abeb=0 abec=1 abf0=0 fb1e=1 fbb2=0
   fe20=1 fe45=0 101fd=1 10280=0 102e0=1 102e1=0 10376=1 10380=0 10a01=1 10a10=0 10a38=1
   10a40=0 10ae5=1 10aeb=0 10d24=1 10d30=0 10eab=1 10ead=0 10f46=1 10f51=0 10f82=1 10f86=0
   11000=1 11003=0 11038=1 11047=0 11070=1 11071=0 11073=1 11075=0 1107f=1 11083=0 110b0=1
   110bb=0 110c2=1 110d0=0 11100=1 11103=0 11127=1 11136=0 11145=1 11147=0 11173=1 11174=0
   11180=1 11183=0 111b3=1 111c1=0 111c9=1 111cd=0 111ce=1 111d0=0 1122c=1 11238=0 1123e=1
   1123f=0 112df=1 112f0=0 11300=1 11305=0 1133b=1 1133d=0 1133e=1 11350=0 11357=1 1135d=0
   11362=1 11380=0 11435=1 11447=0 1145e=1 1145f=0 114b0=1 114c4=0 115af=1 115c1=0 115dc=1
   11600=0 11630=1 11641=0 116ab=1 116b8=0 1171d=1 11730=0 1182c=1 1183b=0 11930=1 1193f=0
   11940=1 11941=0 11942=1 11944=0 119d1=1 119e1=0 119e4=1 11a00=0 11a01=1 11a0b=0 11a33=1
   11a3a=0 11a3b=1 11a3f=0 11a47=1 11a50=0 11a51=1 11a5c=0 11a8a=1 11a9a=0 11c2f=1 11c40=0
   11c92=1 11d00=0 11d31=1 11d46=0 11d47=1 11d50=0 11d8a=1 11d98=0 11ef3=1 11ef7=0 16af0=1
   16af5=0 16b30=1 16b37=0 16f4f=1 16f50=0 16f51=1 16f93=0 16fe4=1 16ff2=0 1bc9d=1 1bc9f=0
   1cf00=1 1cf50=0 1d165=1 1d16a=0 1d16d=1 1d183=0 1d185=1 1d18c=0 1d1aa=1 1d1ae=0 1d242=1
   1d245=0 1da00=1 1da37=0 1da3b=1 1da6d=0 1da75=1 1da76=0 1da84=1 1da85=0 1da9b=1 1df00=0
   1e000=1 1e08f=0 1e130=1 1e137=0 1e2ae=1 1e2c0=0 1e2ec=1 1e2f0=0 1e8d0=1 1e922=0 1e944=1
   1e94b=0"

/-- How characters are joined in writing, in steps: on the left, on the right, on
    both sides (`D`), or not at all but letting others through (`T`). -/
def joiningTable : String :=
  "300=T 371=U 483=T 48b=U 591=T 5be=U 5bf=T 5c0=U 5c1=T 5c3=U 5c4=T 5c6=U 5c7=T 5d0=U 610=T
   61b=U 620=D 621=U 622=R 626=D 627=R 628=D 629=R 62a=D 62f=R 633=D 640=U 641=D 648=R 649=D
   64b=T 660=U 66e=D 670=T 671=R 674=U 679=D 688=R 69a=D 6c0=R 6c1=D 6c3=R 6cc=D 6cd=R 6ce=D
   6cf=R 6d0=D 6d2=R 6d4=U 6d5=R 6d6=T 6de=U 6df=T 6e5=U 6e7=T 6e9=U 6ea=T 6ee=R 6f0=U 6fa=D
   6fd=U 6ff=D 700=U 710=R 711=T 712=D 715=R 71a=D 71e=R 71f=D 728=R 729=D 72a=R 72b=D 72c=R
   72d=D 72f=R 730=T 74d=R 74e=D 759=R 75c=D 76b=R 76d=D 771=R 772=D 773=R 775=D 778=R 77a=D
   780=U 7a6=T 7b1=U 7ca=D 7eb=T 7f4=U 7fd=T 7fe=U 816=T 81a=U 81b=T 824=U 825=T 828=U 829=T
   830=U 840=R 841=D 846=R 848=D 849=R 84a=D 854=R 855=D 856=R 859=T 85e=U 860=D 861=U 862=D
   866=U 867=R 868=D 869=R 883=U 886=D 887=U 889=D 88e=R 88f=D 897=T 8a0=D 8aa=R 8ad=U 8ae=R
   8af=D 8b1=R 8b3=D 8b9=R 8ba=D 8c9=U 8ca=T 903=U 93a=T 93b=U 93c=T 93d=U 941=T 949=U 94d=T
   94e=U 951=T 960=U 962=T 964=U 981=T 982=U 9bc=T 9bd=U 9c1=T 9c7=U 9cd=T 9ce=U 9e2=T 9e6=U
   9fe=T a03=U a3c=T a3e=U a41=T a5c=U a70=T a72=U a75=T a76=U a81=T a83=U abc=T abd=U ac1=T
   ac9=U acd=T ad0=U ae2=T ae6=U afa=T b02=U b3c=T b3d=U b3f=T b40=U b41=T b47=U b4d=T b57=U
   b62=T b66=U b82=T b83=U bc0=T bc1=U bcd=T bd0=U c00=T c01=U c04=T c05=U c3c=T c3d=U c3e=T
   c41=U c46=T c58=U c62=T c66=U c81=T c82=U cbc=T cbd=U cbf=T cc0=U cc6=T cc7=U ccc=T cd5=U
   ce2=T ce6=U d00=T d02=U d3b=T d3d=U d41=T d46=U d4d=T d4e=U d62=T d66=U d81=T d82=U dca=T
   dcf=U dd2=T dd8=U e31=T e32=U e34=T e3f=U e47=T e4f=U eb1=T eb2=U eb4=T ebd=U ec8=T ed0=U
   f18=T f1a=U f35=T f36=U f37=T f38=U f39=T f3a=U f71=T f7f=U f80=T f85=U f86=T f88=U f8d=T
   fbe=U fc6=T fc7=U 102d=T 1031=U 1032=T 1038=U 1039=T 103b=U 103d=T 103f=U 1058=T 105a=U
   105e=T 1061=U 1071=T 1075=U 1082=T 1083=U 1085=T 1087=U 108d=T 108e=U 109d=T 109e=U 135d=T
   1360=U 1712=T 1715=U 1732=T 1734=U 1752=T 1760=U 1772=T 1780=U 17b7=T 17be=U 17c6=T 17c7=U
   17c9=T 17d4=U 17dd=T 17e0=U 1807=D 1808=U 1820=D 1880=U 1885=T 1887=D 18a9=T 18aa=D 18b0=U
   1920=T 1923=U 1927=T 1929=U 1932=T 1933=U 1939=T 1940=U 1a17=T 1a19=U 1a1b=T 1a1e=U 1a56=T
   1a57=U 1a58=T 1a61=U 1a62=T 1a63=U 1a65=T 1a6d=U 1a73=T 1a80=U 1ab0=T 1b04=U 1b34=T 1b35=U
   1b36=T 1b3b=U 1b3c=T 1b3d=U 1b42=T 1b43=U 1b6b=T 1b74=U 1b80=T 1b82=U 1ba2=T 1ba6=U 1ba8=T
   1baa=U 1bab=T 1bae=U 1be6=T 1be7=U 1be8=T 1bea=U 1bed=T 1bee=U 1bef=T 1bf2=U 1c2c=T 1c34=U
   1c36=T 1c3b=U 1cd0=T 1cd3=U 1cd4=T 1ce1=U 1ce2=T 1ce9=U 1ced=T 1cee=U 1cf4=T 1cf5=U 1cf8=T
   1cfa=U 1dc0=T 1e01=U 20d0=T 2104=U 2cef=T 2cf3=U 2d7f=T 2d80=U 2de0=T 2e00=U 302a=T 302e=U
   3099=T 309d=U a66f=T a673=U a674=T a67e=U a69e=T a6a0=U a6f0=T a6f2=U a802=T a803=U a806=T
   a807=U a80b=T a80c=U a825=T a827=U a82c=T a830=U a840=D a872=L a873=U a8c4=T a8ce=U a8e0=T
   a8f2=U a8ff=T a900=U a926=T a92e=U a947=T a952=U a980=T a983=U a9b3=T a9b4=U a9b6=T a9ba=U
   a9bc=T a9be=U a9e5=T a9e6=U aa29=T aa2f=U aa31=T aa33=U aa35=T aa40=U aa43=T aa44=U aa4c=T
   aa4d=U aa7c=T aa7d=U aab0=T aab1=U aab2=T aab5=U aab7=T aab9=U aabe=T aac0=U aac1=T aac2=U
   aaec=T aaee=U aaf6=T ab01=U abe5=T abe6=U abe8=T abe9=U abed=T abf0=U fb1e=T fbb2=U fe20=T
   fe45=U 101fd=T 10280=U 102e0=T 102e1=U 10376=T 10380=U 10a01=T 10a10=U 10a38=T 10a40=U
   10ac0=D 10ac5=R 10ac6=U 10ac7=R 10ac8=U 10ac9=R 10acb=U 10acd=L 10ace=R 10ad3=D 10ad7=L
   10ad8=D 10add=R 10ade=D 10ae1=R 10ae2=U 10ae4=R 10ae5=T 10aeb=D 10aef=R 10af0=U 10b80=D
   10b81=R 10b82=D 10b83=R 10b86=D 10b89=R 10b8a=D 10b8c=R 10b8d=D 10b8e=R 10b90=D 10b91=R
   10b99=U 10ba9=R 10bad=D 10baf=U 10d00=L 10d01=D 10d22=R 10d23=D 10d24=T 10d30=U 10d69=T
   10d6e=U 10eab=T 10ead=U 10ec2=R 10ec3=D 10ec5=U 10ec6=D 10ed0=U 10efa=T 10f00=U 10f30=D
   10f33=R 10f34=D 10f45=U 10f46=T 10f51=D 10f54=R 10f55=U 10f70=D 10f74=R 10f76=D 10f82=T
   10f86=U 10fb0=D 10fb1=U 10fb2=D 10fb4=R 10fb7=U 10fb8=D 10fb9=R 10fbb=D 10fbd=R 10fbe=D
   10fc0=U 10fc1=D 10fc2=R 10fc4=D 10fc5=U 10fc9=R 10fca=D 10fcb=L 10fe0=U 11001=T 11002=U
   11038=T 11047=U 11070=T 11071=U 11073=T 11075=U 1107f=T 11082=U 110b3=T 110b7=U 110b9=T
   110bb=U 110c2=T 110d0=U 11100=T 11103=U 11127=T 1112c=U 1112d=T 11136=U 11173=T 11174=U
   11180=T 11182=U 111b6=T 111bf=U 111c9=T 111cd=U 111cf=T 111d0=U 1122f=T 11232=U 11234=T
   11235=U 11236=T 11238=U 1123e=T 1123f=U 11241=T 11280=U 112df=T 112e0=U 112e3=T 112f0=U
   11300=T 11302=U 1133b=T 1133d=U 11340=T 11341=U 11366=T 11380=U 113bb=T 113c2=U 113ce=T
   113cf=U 113d0=T 113d1=U 113d2=T 113d3=U 113e1=T 11400=U 11438=T 11440=U 11442=T 11445=U
   11446=T 11447=U 1145e=T 1145f=U 114b3=T 114b9=U 114ba=T 114bb=U 114bf=T 114c1=U 114c2=T
   114c4=U 115b2=T 115b8=U 115bc=T 115be=U 115bf=T 115c1=U 115dc=T 11600=U 11633=T 1163b=U
   1163d=T 1163e=U 1163f=T 11641=U 116ab=T 116ac=U 116ad=T 116ae=U 116b0=T 116b6=U 116b7=T
   116b8=U 1171d=T 1171e=U 1171f=T 11720=U 11722=T 11726=U 11727=T 11730=U 1182f=T 11838=U
   11839=T 1183b=U 1193b=T 1193d=U 1193e=T 1193f=U 11943=T 11944=U 119d4=T 119dc=U 119e0=T
   119e1=U 11a01=T 11a0b=U 11a33=T 11a39=U 11a3b=T 11a3f=U 11a47=T 11a50=U 11a51=T 11a57=U
   11a59=T 11a5c=U 11a8a=T 11a97=U 11a98=T 11a9a=U 11b60=T 11b61=U 11b62=T 11b65=U 11b66=T
   11b67=U 11c30=T 11c3e=U 11c3f=T 11c40=U 11c92=T 11ca9=U 11caa=T 11cb1=U 11cb2=T 11cb4=U
   11cb5=T 11d00=U 11d31=T 11d46=U 11d47=T 11d50=U 11d90=T 11d93=U 11d95=T 11d96=U 11d97=T
   11d98=U 11ef3=T 11ef5=U 11f00=T 11f02=U 11f36=T 11f3e=U 11f40=T 11f41=U 11f42=T 11f43=U
   11f5a=T 11fb0=U 13440=T 13441=U 13447=T 13460=U 1611e=T 1612a=U 1612d=T 16130=U 16af0=T
   16af5=U 16b30=T 16b37=U 16f4f=T 16f50=U 16f8f=T 16f93=U 16fe4=T 16ff0=U 1bc9d=T 1bc9f=U
   1cf00=T 1cf50=U 1d167=T 1d16a=U 1d17b=T 1d183=U 1d185=T 1d18c=U 1d1aa=T 1d1ae=U 1d242=T
   1d245=U 1da00=T 1da37=U 1da3b=T 1da6d=U 1da75=T 1da76=U 1da84=T 1da85=U 1da9b=T 1df00=U
   1e000=T 1e100=U 1e130=T 1e137=U 1e2ae=T 1e2c0=U 1e2ec=T 1e2f0=U 1e4ec=T 1e4f0=U 1e5ee=T
   1e5f0=U 1e6e3=T 1e6e4=U 1e6e6=T 1e6e7=U 1e6ee=T 1e6f0=U 1e6f5=T 1e6fe=U 1e8d0=T 1e922=D
   1e944=T 1e950=U"

/-- The steps of the table of marks. -/
def marks : Array (Nat × Char) := PointTable.steps (Reader.satisfy Char.isDigit) markTable

/-- Whether a character is a mark. -/
def isMark (c : Char) : Bool := 0x80 ≤ c.toNat && PointTable.valueAt marks '0' c.toNat = '1'

/-- The steps of the table of joining. -/
def joinings : Array (Nat × Char) := PointTable.steps (Reader.satisfy Char.isAlpha) joiningTable

/-- The letter for how a character is joined. -/
def joining (c : Char) : Char :=
  if c.toNat < 0x80 then 'U' else PointTable.valueAt joinings 'U' c.toNat

/-- The combining class of signs that take a vowel away. -/
def vowelKillerClass : Nat := 9

/-- Whether a character is such a sign. -/
def isVowelKiller (c : Char) : Bool := Composition.classOf c.toNat = vowelKillerClass

/-- Whether the first character that is joined at all is joined at a side. -/
def joinsAt (side : Char) (text : List Char) : Bool :=
  match (text.map joining).dropWhile (· = 'T') with
  | kind :: _ => kind = side || kind = 'D'
  | [] => false

/-- Whether joiners stand where they may; `before` is what is in front of the text,
    the last first. -/
def inPlace (before : List Char) : List Char → Bool
  | [] => true
  | c :: rest =>
    let allowed :=
      if c = '\u200C' then
        before.head?.any isVowelKiller || (joinsAt 'L' before && joinsAt 'R' rest)
      else if c = '\u200D' then before.head?.any isVowelKiller
      else true
    allowed && inPlace (c :: before) rest

end Joiner

/-- Whether a label begins with no mark and has joiners only where they may be. -/
def keepsJoiners (label : List Char) : Bool :=
  !label.head?.any Joiner.isMark && Joiner.inPlace [] label

end RelayTunnel
