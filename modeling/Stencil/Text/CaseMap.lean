import Stencil.Text.Classes

/-!
Letter case of whole texts. A character maps to one or more characters: ASCII by rule, the
rest by the Unicode 14.0 tables of simple shifts and of expansions. Lower-casing a text also
applies the rule of the final sigma.
-/
namespace Stencil.Text

/-- One run of a case table: the code points from first to last, one in every step, move by a
shift. -/
structure CaseShift where
  first : Nat
  last : Nat
  step : Nat
  shift : Int

/-- A case map beyond ASCII: shifts in ascending order, and characters that expand. -/
structure CaseTable where
  shifts : Array CaseShift
  expansions : Array (Nat × List Char)

private def readShift (cs : List Char) : CaseShift :=
  let first := cs.takeWhile fun c => (hexValue? c).isSome
  let rest := cs.drop first.length
  let (last, rest) := match rest with
    | '-' :: more =>
      -- a minus sign is a range when a second sign follows the number
      if more.any (fun c => c == '+' || c == '-') then
        let n := more.takeWhile fun c => (hexValue? c).isSome
        (n, more.drop n.length)
      else (first, rest)
    | _ => (first, rest)
  let (step, rest) := match rest with
    | '/' :: '2' :: more => (2, more)
    | _ => (1, rest)
  let amount := (rest.drop 1).foldl (fun n c => n * 10 + (c.toNat - 48)) 0
  let shift : Int := if rest.head? == some '-' then -(Int.ofNat amount) else Int.ofNat amount
  ⟨hexOf first, hexOf last, step, shift⟩

private def splitAtDots (cs : List Char) : List (List Char) :=
  cs.foldr (fun c parts =>
    match c, parts with
    | '.', parts => [] :: parts
    | c, [] => [[c]]
    | c, part :: parts => (c :: part) :: parts) [[]]

private def readExpansion (cs : List Char) : Nat × List Char :=
  let source := cs.takeWhile (· != '=')
  let targets := splitAtDots ((cs.drop source.length).drop 1)
  (hexOf source, targets.map fun w => Char.ofNat (hexOf w))

def CaseTable.read (shifts expansions : String) : CaseTable :=
  ⟨((tableWords shifts).map readShift).toArray,
    ((tableWords expansions).map readExpansion).toArray⟩

private def CaseTable.shiftOf (t : CaseTable) (n lo hi : Nat) : Nat :=
  if lo < hi then
    let mid := (lo + hi) / 2
    match t.shifts[mid]? with
    | none => n
    | some s =>
      if n < s.first then t.shiftOf n lo mid
      else if s.last < n then t.shiftOf n (mid + 1) hi
      else if (n - s.first) % s.step == 0 then (Int.ofNat n + s.shift).toNat else n
  else n
termination_by hi - lo

def CaseTable.map (t : CaseTable) (c : Char) : List Char :=
  match t.expansions.find? fun e => e.1 == c.toNat with
  | some e => e.2
  | none => [Char.ofNat (t.shiftOf c.toNat 0 t.shifts.size)]

/-- Lower case. -/
private def lowerTable : CaseTable := .read
  "C0-D6+32 D8-DE+32 100-12E/2+1 132-136/2+1 139-147/2+1 14A-176/2+1 178-121 179-17D/2+1
  181+210 182-184/2+1 186+206 187+1 189-18A+205 18B+1 18E+79 18F+202 190+203 191+1 193+205
  194+207 196+211 197+209 198+1 19C+211 19D+213 19F+214 1A0-1A4/2+1 1A6+218 1A7+1 1A9+218
  1AC+1 1AE+218 1AF+1 1B1-1B2+217 1B3-1B5/2+1 1B7+219 1B8+1 1BC+1 1C4+2 1C5+1 1C7+2 1C8+1
  1CA+2 1CB-1DB/2+1 1DE-1EE/2+1 1F1+2 1F2-1F4/2+1 1F6-97 1F7-56 1F8-21E/2+1 220-130
  222-232/2+1 23A+10795 23B+1 23D-163 23E+10792 241+1 243-195 244+69 245+71 246-24E/2+1
  370-372/2+1 376+1 37F+116 386+38 388-38A+37 38C+64 38E-38F+63 391-3A1+32 3A3-3AB+32 3CF+8
  3D8-3EE/2+1 3F4-60 3F7+1 3F9-7 3FA+1 3FD-3FF-130 400-40F+80 410-42F+32 460-480/2+1
  48A-4BE/2+1 4C0+15 4C1-4CD/2+1 4D0-52E/2+1 531-556+48 10A0-10C5+7264 10C7+7264 10CD+7264
  13A0-13EF+38864 13F0-13F5+8 1C90-1CBA-3008 1CBD-1CBF-3008 1E00-1E94/2+1 1E9E-7615
  1EA0-1EFE/2+1 1F08-1F0F-8 1F18-1F1D-8 1F28-1F2F-8 1F38-1F3F-8 1F48-1F4D-8 1F59-1F5F/2-8
  1F68-1F6F-8 1F88-1F8F-8 1F98-1F9F-8 1FA8-1FAF-8 1FB8-1FB9-8 1FBA-1FBB-74 1FBC-9 1FC8-1FCB-86
  1FCC-9 1FD8-1FD9-8 1FDA-1FDB-100 1FE8-1FE9-8 1FEA-1FEB-112 1FEC-7 1FF8-1FF9-128
  1FFA-1FFB-126 1FFC-9 2126-7517 212A-8383 212B-8262 2132+28 2160-216F+16 2183+1 24B6-24CF+26
  2C00-2C2F+48 2C60+1 2C62-10743 2C63-3814 2C64-10727 2C67-2C6B/2+1 2C6D-10780 2C6E-10749
  2C6F-10783 2C70-10782 2C72+1 2C75+1 2C7E-2C7F-10815 2C80-2CE2/2+1 2CEB-2CED/2+1 2CF2+1
  A640-A66C/2+1 A680-A69A/2+1 A722-A72E/2+1 A732-A76E/2+1 A779-A77B/2+1 A77D-35332
  A77E-A786/2+1 A78B+1 A78D-42280 A790-A792/2+1 A796-A7A8/2+1 A7AA-42308 A7AB-42319 A7AC-42315
  A7AD-42305 A7AE-42308 A7B0-42258 A7B1-42282 A7B2-42261 A7B3+928 A7B4-A7C2/2+1 A7C4-48
  A7C5-42307 A7C6-35384 A7C7-A7C9/2+1 A7D0+1 A7D6-A7D8/2+1 A7F5+1 FF21-FF3A+32 10400-10427+40
  104B0-104D3+40 10570-1057A+39 1057C-1058A+39 1058C-10592+39 10594-10595+39 10C80-10CB2+64
  118A0-118BF+32 16E40-16E5F+32 1E900-1E921+34"
  "130=69.307"

/-- Upper case. -/
private def upperTable : CaseTable := .read
  "B5+743 E0-F6-32 F8-FE-32 FF+121 101-12F/2-1 131-232 133-137/2-1 13A-148/2-1 14B-177/2-1
  17A-17E/2-1 17F-300 180+195 183-185/2-1 188-1 18C-1 192-1 195+97 199-1 19A+163 19E+130
  1A1-1A5/2-1 1A8-1 1AD-1 1B0-1 1B4-1B6/2-1 1B9-1 1BD-1 1BF+56 1C5-1 1C6-2 1C8-1 1C9-2 1CB-1
  1CC-2 1CE-1DC/2-1 1DD-79 1DF-1EF/2-1 1F2-1 1F3-2 1F5-1 1F9-21F/2-1 223-233/2-1 23C-1
  23F-240+10815 242-1 247-24F/2-1 250+10783 251+10780 252+10782 253-210 254-206 256-257-205
  259-202 25B-203 25C+42319 260-205 261+42315 263-207 265+42280 266+42308 268-209 269-211
  26A+42308 26B+10743 26C+42305 26F-211 271+10749 272-213 275-214 27D+10727 280-218 282+42307
  283-218 287+42282 288-218 289-69 28A-28B-217 28C-71 292-219 29D+42261 29E+42258 345+84
  371-373/2-1 377-1 37B-37D+130 3AC-38 3AD-3AF-37 3B1-3C1-32 3C2-31 3C3-3CB-32 3CC-64
  3CD-3CE-63 3D0-62 3D1-57 3D5-47 3D6-54 3D7-8 3D9-3EF/2-1 3F0-86 3F1-80 3F2+7 3F3-116 3F5-96
  3F8-1 3FB-1 430-44F-32 450-45F-80 461-481/2-1 48B-4BF/2-1 4C2-4CE/2-1 4CF-15 4D1-52F/2-1
  561-586-48 10D0-10FA+3008 10FD-10FF+3008 13F8-13FD-8 1C80-6254 1C81-6253 1C82-6244
  1C83-1C84-6242 1C85-6243 1C86-6236 1C87-6181 1C88+35266 1D79+35332 1D7D+3814 1D8E+35384
  1E01-1E95/2-1 1E9B-59 1EA1-1EFF/2-1 1F00-1F07+8 1F10-1F15+8 1F20-1F27+8 1F30-1F37+8
  1F40-1F45+8 1F51-1F57/2+8 1F60-1F67+8 1F70-1F71+74 1F72-1F75+86 1F76-1F77+100 1F78-1F79+128
  1F7A-1F7B+112 1F7C-1F7D+126 1FB0-1FB1+8 1FBE-7205 1FD0-1FD1+8 1FE0-1FE1+8 1FE5+7 214E-28
  2170-217F-16 2184-1 24D0-24E9-26 2C30-2C5F-48 2C61-1 2C65-10795 2C66-10792 2C68-2C6C/2-1
  2C73-1 2C76-1 2C81-2CE3/2-1 2CEC-2CEE/2-1 2CF3-1 2D00-2D25-7264 2D27-7264 2D2D-7264
  A641-A66D/2-1 A681-A69B/2-1 A723-A72F/2-1 A733-A76F/2-1 A77A-A77C/2-1 A77F-A787/2-1 A78C-1
  A791-A793/2-1 A794+48 A797-A7A9/2-1 A7B5-A7C3/2-1 A7C8-A7CA/2-1 A7D1-1 A7D7-A7D9/2-1 A7F6-1
  AB53-928 AB70-ABBF-38864 FF41-FF5A-32 10428-1044F-40 104D8-104FB-40 10597-105A1-39
  105A3-105B1-39 105B3-105B9-39 105BB-105BC-39 10CC0-10CF2-64 118C0-118DF-32 16E60-16E7F-32
  1E922-1E943-34"
  "DF=53.53 149=2BC.4E 1F0=4A.30C 390=399.308.301 3B0=3A5.308.301 587=535.552 1E96=48.331
  1E97=54.308 1E98=57.30A 1E99=59.30A 1E9A=41.2BE 1F50=3A5.313 1F52=3A5.313.300
  1F54=3A5.313.301 1F56=3A5.313.342 1F80=1F08.399 1F81=1F09.399 1F82=1F0A.399 1F83=1F0B.399
  1F84=1F0C.399 1F85=1F0D.399 1F86=1F0E.399 1F87=1F0F.399 1F88=1F08.399 1F89=1F09.399
  1F8A=1F0A.399 1F8B=1F0B.399 1F8C=1F0C.399 1F8D=1F0D.399 1F8E=1F0E.399 1F8F=1F0F.399
  1F90=1F28.399 1F91=1F29.399 1F92=1F2A.399 1F93=1F2B.399 1F94=1F2C.399 1F95=1F2D.399
  1F96=1F2E.399 1F97=1F2F.399 1F98=1F28.399 1F99=1F29.399 1F9A=1F2A.399 1F9B=1F2B.399
  1F9C=1F2C.399 1F9D=1F2D.399 1F9E=1F2E.399 1F9F=1F2F.399 1FA0=1F68.399 1FA1=1F69.399
  1FA2=1F6A.399 1FA3=1F6B.399 1FA4=1F6C.399 1FA5=1F6D.399 1FA6=1F6E.399 1FA7=1F6F.399
  1FA8=1F68.399 1FA9=1F69.399 1FAA=1F6A.399 1FAB=1F6B.399 1FAC=1F6C.399 1FAD=1F6D.399
  1FAE=1F6E.399 1FAF=1F6F.399 1FB2=1FBA.399 1FB3=391.399 1FB4=386.399 1FB6=391.342
  1FB7=391.342.399 1FBC=391.399 1FC2=1FCA.399 1FC3=397.399 1FC4=389.399 1FC6=397.342
  1FC7=397.342.399 1FCC=397.399 1FD2=399.308.300 1FD3=399.308.301 1FD6=399.342
  1FD7=399.308.342 1FE2=3A5.308.300 1FE3=3A5.308.301 1FE4=3A1.313 1FE6=3A5.342
  1FE7=3A5.308.342 1FF2=1FFA.399 1FF3=3A9.399 1FF4=38F.399 1FF6=3A9.342 1FF7=3A9.342.399
  1FFC=3A9.399 FB00=46.46 FB01=46.49 FB02=46.4C FB03=46.46.49 FB04=46.46.4C FB05=53.54
  FB06=53.54 FB13=544.546 FB14=544.535 FB15=544.53B FB16=54E.546 FB17=544.53D"

/-- Characters whose title case differs from their upper case. -/
private def titleTable : CaseTable := .read ""
  "DF=53.73 1C4=1C5 1C5=1C5 1C6=1C5 1C7=1C8 1C8=1C8 1C9=1C8 1CA=1CB 1CB=1CB 1CC=1CB 1F1=1F2
  1F2=1F2 1F3=1F2 587=535.582 10D0=10D0 10D1=10D1 10D2=10D2 10D3=10D3 10D4=10D4 10D5=10D5
  10D6=10D6 10D7=10D7 10D8=10D8 10D9=10D9 10DA=10DA 10DB=10DB 10DC=10DC 10DD=10DD 10DE=10DE
  10DF=10DF 10E0=10E0 10E1=10E1 10E2=10E2 10E3=10E3 10E4=10E4 10E5=10E5 10E6=10E6 10E7=10E7
  10E8=10E8 10E9=10E9 10EA=10EA 10EB=10EB 10EC=10EC 10ED=10ED 10EE=10EE 10EF=10EF 10F0=10F0
  10F1=10F1 10F2=10F2 10F3=10F3 10F4=10F4 10F5=10F5 10F6=10F6 10F7=10F7 10F8=10F8 10F9=10F9
  10FA=10FA 10FD=10FD 10FE=10FE 10FF=10FF 1F80=1F88 1F81=1F89 1F82=1F8A 1F83=1F8B 1F84=1F8C
  1F85=1F8D 1F86=1F8E 1F87=1F8F 1F88=1F88 1F89=1F89 1F8A=1F8A 1F8B=1F8B 1F8C=1F8C 1F8D=1F8D
  1F8E=1F8E 1F8F=1F8F 1F90=1F98 1F91=1F99 1F92=1F9A 1F93=1F9B 1F94=1F9C 1F95=1F9D 1F96=1F9E
  1F97=1F9F 1F98=1F98 1F99=1F99 1F9A=1F9A 1F9B=1F9B 1F9C=1F9C 1F9D=1F9D 1F9E=1F9E 1F9F=1F9F
  1FA0=1FA8 1FA1=1FA9 1FA2=1FAA 1FA3=1FAB 1FA4=1FAC 1FA5=1FAD 1FA6=1FAE 1FA7=1FAF 1FA8=1FA8
  1FA9=1FA9 1FAA=1FAA 1FAB=1FAB 1FAC=1FAC 1FAD=1FAD 1FAE=1FAE 1FAF=1FAF 1FB2=1FBA.345
  1FB3=1FBC 1FB4=386.345 1FB7=391.342.345 1FBC=1FBC 1FC2=1FCA.345 1FC3=1FCC 1FC4=389.345
  1FC7=397.342.345 1FCC=1FCC 1FF2=1FFA.345 1FF3=1FFC 1FF4=38F.345 1FF7=3A9.342.345 1FFC=1FFC
  FB00=46.66 FB01=46.69 FB02=46.6C FB03=46.66.69 FB04=46.66.6C FB05=53.74 FB06=53.74
  FB13=544.576 FB14=544.565 FB15=544.56B FB16=54E.576 FB17=544.56D"

/-- Characters whose folded form differs from their lower case. -/
private def foldTable : CaseTable := .read ""
  "B5=3BC DF=73.73 149=2BC.6E 17F=73 1F0=6A.30C 345=3B9 390=3B9.308.301 3B0=3C5.308.301 3C2=3C3
  3D0=3B2 3D1=3B8 3D5=3C6 3D6=3C0 3F0=3BA 3F1=3C1 3F5=3B5 587=565.582 13A0=13A0 13A1=13A1
  13A2=13A2 13A3=13A3 13A4=13A4 13A5=13A5 13A6=13A6 13A7=13A7 13A8=13A8 13A9=13A9 13AA=13AA
  13AB=13AB 13AC=13AC 13AD=13AD 13AE=13AE 13AF=13AF 13B0=13B0 13B1=13B1 13B2=13B2 13B3=13B3
  13B4=13B4 13B5=13B5 13B6=13B6 13B7=13B7 13B8=13B8 13B9=13B9 13BA=13BA 13BB=13BB 13BC=13BC
  13BD=13BD 13BE=13BE 13BF=13BF 13C0=13C0 13C1=13C1 13C2=13C2 13C3=13C3 13C4=13C4 13C5=13C5
  13C6=13C6 13C7=13C7 13C8=13C8 13C9=13C9 13CA=13CA 13CB=13CB 13CC=13CC 13CD=13CD 13CE=13CE
  13CF=13CF 13D0=13D0 13D1=13D1 13D2=13D2 13D3=13D3 13D4=13D4 13D5=13D5 13D6=13D6 13D7=13D7
  13D8=13D8 13D9=13D9 13DA=13DA 13DB=13DB 13DC=13DC 13DD=13DD 13DE=13DE 13DF=13DF 13E0=13E0
  13E1=13E1 13E2=13E2 13E3=13E3 13E4=13E4 13E5=13E5 13E6=13E6 13E7=13E7 13E8=13E8 13E9=13E9
  13EA=13EA 13EB=13EB 13EC=13EC 13ED=13ED 13EE=13EE 13EF=13EF 13F0=13F0 13F1=13F1 13F2=13F2
  13F3=13F3 13F4=13F4 13F5=13F5 13F8=13F0 13F9=13F1 13FA=13F2 13FB=13F3 13FC=13F4 13FD=13F5
  1C80=432 1C81=434 1C82=43E 1C83=441 1C84=442 1C85=442 1C86=44A 1C87=463 1C88=A64B
  1E96=68.331 1E97=74.308 1E98=77.30A 1E99=79.30A 1E9A=61.2BE 1E9B=1E61 1E9E=73.73
  1F50=3C5.313 1F52=3C5.313.300 1F54=3C5.313.301 1F56=3C5.313.342 1F80=1F00.3B9 1F81=1F01.3B9
  1F82=1F02.3B9 1F83=1F03.3B9 1F84=1F04.3B9 1F85=1F05.3B9 1F86=1F06.3B9 1F87=1F07.3B9
  1F88=1F00.3B9 1F89=1F01.3B9 1F8A=1F02.3B9 1F8B=1F03.3B9 1F8C=1F04.3B9 1F8D=1F05.3B9
  1F8E=1F06.3B9 1F8F=1F07.3B9 1F90=1F20.3B9 1F91=1F21.3B9 1F92=1F22.3B9 1F93=1F23.3B9
  1F94=1F24.3B9 1F95=1F25.3B9 1F96=1F26.3B9 1F97=1F27.3B9 1F98=1F20.3B9 1F99=1F21.3B9
  1F9A=1F22.3B9 1F9B=1F23.3B9 1F9C=1F24.3B9 1F9D=1F25.3B9 1F9E=1F26.3B9 1F9F=1F27.3B9
  1FA0=1F60.3B9 1FA1=1F61.3B9 1FA2=1F62.3B9 1FA3=1F63.3B9 1FA4=1F64.3B9 1FA5=1F65.3B9
  1FA6=1F66.3B9 1FA7=1F67.3B9 1FA8=1F60.3B9 1FA9=1F61.3B9 1FAA=1F62.3B9 1FAB=1F63.3B9
  1FAC=1F64.3B9 1FAD=1F65.3B9 1FAE=1F66.3B9 1FAF=1F67.3B9 1FB2=1F70.3B9 1FB3=3B1.3B9
  1FB4=3AC.3B9 1FB6=3B1.342 1FB7=3B1.342.3B9 1FBC=3B1.3B9 1FBE=3B9 1FC2=1F74.3B9 1FC3=3B7.3B9
  1FC4=3AE.3B9 1FC6=3B7.342 1FC7=3B7.342.3B9 1FCC=3B7.3B9 1FD2=3B9.308.300 1FD3=3B9.308.301
  1FD6=3B9.342 1FD7=3B9.308.342 1FE2=3C5.308.300 1FE3=3C5.308.301 1FE4=3C1.313 1FE6=3C5.342
  1FE7=3C5.308.342 1FF2=1F7C.3B9 1FF3=3C9.3B9 1FF4=3CE.3B9 1FF6=3C9.342 1FF7=3C9.342.3B9
  1FFC=3C9.3B9 AB70=13A0 AB71=13A1 AB72=13A2 AB73=13A3 AB74=13A4 AB75=13A5 AB76=13A6 AB77=13A7
  AB78=13A8 AB79=13A9 AB7A=13AA AB7B=13AB AB7C=13AC AB7D=13AD AB7E=13AE AB7F=13AF AB80=13B0
  AB81=13B1 AB82=13B2 AB83=13B3 AB84=13B4 AB85=13B5 AB86=13B6 AB87=13B7 AB88=13B8 AB89=13B9
  AB8A=13BA AB8B=13BB AB8C=13BC AB8D=13BD AB8E=13BE AB8F=13BF AB90=13C0 AB91=13C1 AB92=13C2
  AB93=13C3 AB94=13C4 AB95=13C5 AB96=13C6 AB97=13C7 AB98=13C8 AB99=13C9 AB9A=13CA AB9B=13CB
  AB9C=13CC AB9D=13CD AB9E=13CE AB9F=13CF ABA0=13D0 ABA1=13D1 ABA2=13D2 ABA3=13D3 ABA4=13D4
  ABA5=13D5 ABA6=13D6 ABA7=13D7 ABA8=13D8 ABA9=13D9 ABAA=13DA ABAB=13DB ABAC=13DC ABAD=13DD
  ABAE=13DE ABAF=13DF ABB0=13E0 ABB1=13E1 ABB2=13E2 ABB3=13E3 ABB4=13E4 ABB5=13E5 ABB6=13E6
  ABB7=13E7 ABB8=13E8 ABB9=13E9 ABBA=13EA ABBB=13EB ABBC=13EC ABBD=13ED ABBE=13EE ABBF=13EF
  FB00=66.66 FB01=66.69 FB02=66.6C FB03=66.66.69 FB04=66.66.6C FB05=73.74 FB06=73.74
  FB13=574.576 FB14=574.565 FB15=574.56B FB16=57E.576 FB17=574.56D"

def lowerChar (c : Char) : List Char :=
  if c.toNat < 128 then [c.toLower] else lowerTable.map c

def upperChar (c : Char) : List Char :=
  if c.toNat < 128 then [c.toUpper] else upperTable.map c

def titleChar (c : Char) : List Char :=
  if c.toNat < 128 then [c.toUpper]
  else match titleTable.expansions.find? fun e => e.1 == c.toNat with
    | some e => e.2
    | none => upperTable.map c

private def foldChar (c : Char) : List Char :=
  if c.toNat < 128 then [c.toLower]
  else match foldTable.expansions.find? fun e => e.1 == c.toNat with
    | some e => e.2
    | none => lowerTable.map c

/-- A capital sigma is final when a cased letter stands before it and none after it, skipped
characters aside. -/
private def isFinalSigma (before after : List Char) : Bool :=
  (before.dropWhile isCaseSkipped).head?.any isCased &&
    !(after.dropWhile isCaseSkipped).head?.any isCased

/-- Lower case behind some characters, the last of them first. -/
def lowerFrom (before : List Char) : List Char → List Char
  | [] => []
  | c :: rest =>
    (if c == 'Σ' then [if isFinalSigma before rest then 'ς' else 'σ'] else lowerChar c) ++
      lowerFrom (c :: before) rest

def lowerChars (cs : List Char) : List Char := lowerFrom [] cs
def upperChars (cs : List Char) : List Char := cs.flatMap upperChar

def lower (s : String) : String := .ofList (lowerChars s.toList)
def upper (s : String) : String := .ofList (upperChars s.toList)
def caseFold (s : String) : String := .ofList (s.toList.flatMap foldChar)

/-- The first character in title case, the rest in lower case. -/
def capitalize (s : String) : String :=
  match s.toList with
  | [] => ""
  | c :: rest => .ofList (titleChar c ++ lowerFrom [c] rest)

private def isCaseLetter (c : Char) : Bool := isLowerCase c || isUpperCase c || isTitleCase c

private def titleFrom (before : List Char) : List Char → List Char
  | [] => []
  | c :: rest =>
    (if before.head?.any isCaseLetter then
      if c == 'Σ' then [if isFinalSigma before rest then 'ς' else 'σ'] else lowerChar c
    else titleChar c) ++ titleFrom (c :: before) rest

/-- Title case at the start of every run of letters with a case, lower case inside. -/
def titleWords (s : String) : String := .ofList (titleFrom [] s.toList)

def swapCase (s : String) : String :=
  .ofList (s.toList.flatMap fun c =>
    if isUpperCase c then lowerChar c else if isLowerCase c then upperChar c else [c])

/-- All letters that have a case are lower-case, and there is one. -/
def isLowerText (s : String) : Bool :=
  s.toList.any isLowerCase && !s.toList.any fun c => isUpperCase c || isTitleCase c

/-- All letters that have a case are upper-case, and there is one. -/
def isUpperText (s : String) : Bool :=
  s.toList.any isUpperCase && !s.toList.any fun c => isLowerCase c || isTitleCase c

end Stencil.Text
