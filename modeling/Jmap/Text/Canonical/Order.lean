import Jmap.Text.CodeTable

/-!
The order of marks: each belongs to a class, and marks of different classes may
change places without a change of meaning.
-/

namespace Jmap.Text.Canonical

def classes : CodeMap := .ofText "
300-314=E6 E8 316-319=DC E8 D8 31C-320=DC CA CA 323-326=DC CA CA 329-333=DC 334-338=1 339-33C=DC
33D-33F=E6 342:E6 345:F0 E6 347-349=DC 34A-34C=E6 DC DC 350-352=E6 353-356=DC E6 E8 DC DC E6 E9 EA
EA E9 EA EA E9 363-36F=E6 483-487=E6 591:DC 592-595=E6 DC 597-599=E6 DE DC 59C-5A1=E6 5A2-5A7=DC
E6 E6 DC E6 E6 DE E4 E6 5B0-5B9:A 5BA-5BD:13 5BF:17 5C1-5C2:18 5C4:E6 DC 5C7:12 610-617=E6
618-61A:1E 64B-652:1B E6 E6 DC DC 657-65B=E6 DC E6 E6 DC 670:23 6D6-6DC=E6 6DF-6E2=E6 DC E6 6E7:E6
E6 6EA:DC E6 E6 DC 711:24 730:E6 DC E6 E6 DC E6 E6 737-739=DC E6 DC DC E6 DC 73F-741=E6 DC E6 DC
E6 DC E6 DC E6 E6 7EB-7F1=E6 DC E6 7FD:DC 816-819=E6 81B-823=E6 825-827=E6 829-82D=E6 859-85B=DC
897:E6 E6 899-89B=DC 89C-89F=E6 8CA-8CE=E6 8CF-8D3=DC 8D4-8E1=E6 8E3:DC E6 E6 DC E6 E6 DC
8EA-8EC=E6 8ED-8EF=DC 8F0-8F2:1B 8F3-8F5=E6 DC E6 E6 DC DC 8FB-8FF=E6 93C:7 94D:9 951:E6 DC E6 E6
9BC:7 9CD:9 9FE:E6 A3C:7 A4D:9 ABC:7 ACD:9 B3C:7 B4D:9 BCD:9 C3C:7 C4D:9 C55:54 5B CBC:7 CCD:9
D3B:9 9 D4D:9 DCA:9 E38:67 67 9 E48-E4B=6B EB8:76 76 9 EC8-ECB=7A F18:DC DC F35:DC F37:DC F39:D8
F71-F72:81 F74:84 F7A-F7D=82 F80:82 F82:E6 E6 9 F86:E6 E6 FC6:DC 1037/1039:7 9 108D:DC
135D-135F=E6 1714:9 9 1734:9 17D2:9 17DD:E6 18A9:E4 1939:DE E6 DC 1A17:E6 DC 1A60:9 1A75-1A7C=E6
1A7F:DC 1AB0-1AB4=E6 1AB5-1ABA=DC E6 E6 DC 1ABF:DC DC E6 E6 DC DC 1AC5-1AC9=E6 DC 1ACB-1ADC=E6 DC
1AE0-1AE5=E6 DC 1AE7-1AEA=E6 EA 1B34:7 1B44:9 1B6B:E6 DC 1B6D-1B73=E6 1BAA:9 9 1BE6:7 1BF2:9 9
1C37:7 1CD0-1CD2=E6 1CD4:1 1CD5-1CD9=DC E6 E6 1CDC-1CDF=DC E6 1CE2-1CE8=1 1CED:DC 1CF4:E6 1CF8:E6
E6 1DC0:E6 E6 DC 1DC3-1DC9=E6 DC E6 E6 EA D6 DC CA 1DD1-1DF5=E6 E8 E4 E4 DC DA E6 E9 DC E6 DC
20D0:E6 E6 1 1 20D4-20D7=E6 20D8-20DA=1 E6 E6 20E1:E6 20E5:1 1 E6 DC E6 1 1 20EC-20EF=DC E6
2CEF-2CF1=E6 2D7F:9 2DE0-2DFF=E6 302A:DA E4 E8 DE E0 E0 3099:8 8 A66F:E6 A674-A67D=E6 A69E:E6 E6
A6F0:E6 E6 A806:9 A82C:9 A8C4:9 A8E0-A8F1=E6 A92B-A92D=DC A953:9 A9B3:7 A9C0:9 AAB0:E6 AAB2:E6 E6
DC AAB7:E6 E6 AABE:E6 E6 AAC1:E6 AAF6:9 ABED:9 FB1E:1A FE20-FE26=E6 FE27-FE2D=DC E6 E6 101FD:DC
102E0:DC 10376-1037A=E6 10A0D:DC 10A0F:E6 10A38:E6 1 DC 10A3F:9 10AE5:E6 DC 10D24-10D27=E6
10D69-10D6D=E6 10EAB:E6 E6 10EFA:DC DC 10EFD-10EFF=DC 10F46:DC DC 10F48-10F4A=E6 DC E6
10F4D-10F50=DC 10F82:E6 DC E6 DC 11046:9 11070:9 1107F:9 110B9:9 7 11100-11102=E6 11133:9 9
11173:7 111C0:9 111CA:7 11235:9 7 112E9:7 9 1133B:7 7 1134D:9 11366-1136C=E6 11370-11374=E6
113CE-113D0=9 11442:9 11446:7 1145E:E6 114C2:9 7 115BF:9 7 1163F:9 116B6:9 7 1172B:9 11839:9 7
1193D:9 9 11943:7 119E0:9 11A34:9 11A47:9 11A99:9 11C3F:9 11D42/11D44:7 9 11D97:9 11F41:9 9
1612F:9 16AF0-16AF4=1 16B30-16B36=E6 16FF0:6 6 1BC9E:1 1D165:D8 D8 1D167-1D169=1 1D16D:E2
1D16E-1D172=D8 1D17B-1D182=DC 1D185-1D189=E6 DC DC 1D1AA-1D1AD=E6 1D242-1D244=E6 1E000-1E006=E6
1E008-1E018=E6 1E01B-1E021=E6 1E023:E6 E6 1E026-1E02A=E6 1E08F:E6 1E130-1E136=E6 1E2AE:E6
1E2EC-1E2EF=E6 1E4EC:E8 E8 DC E6 1E5EE:E6 DC 1E6E3:E6 1E6E6:E6 1E6EE:E6 E6 1E6F5:E6 1E8D0-1E8D6=DC
1E944-1E949=E6 7
"

/-- The class of a character; it is zero for those that keep their place. No
character below U+0300 has another. -/
def classOf (code : Nat) : Nat :=
  if code < 0x300 then 0 else ((classes.find? code).bind (·.head?)).getD 0

def killerClass : Nat := 9

end Jmap.Text.Canonical
