/-
The upper halves of the character sets of desktop scripts: the code point of each octet from 128
on. An octet without a character has the replacement character.
-/
namespace Workflows.Charset

/-- The upper half of `mac-arabic`. -/
def macArabic : List Nat := [
  196, 160, 199, 201, 209, 214, 220, 225, 224, 226, 228, 1722, 171, 231, 233, 232, 234, 235, 237,
  8230, 238, 239, 241, 243, 187, 244, 246, 247, 250, 249, 251, 252, 32, 33, 34, 35, 36, 1642, 38,
  39, 40, 41, 42, 43, 1548, 45, 46, 47, 1632, 1633, 1634, 1635, 1636, 1637, 1638, 1639, 1640, 1641,
  58, 1563, 60, 61, 62, 1567, 10058, 1569, 1570, 1571, 1572, 1573, 1574, 1575, 1576, 1577, 1578,
  1579, 1580, 1581, 1582, 1583, 1584, 1585, 1586, 1587, 1588, 1589, 1590, 1591, 1592, 1593, 1594,
  91, 92, 93, 94, 95, 1600, 1601, 1602, 1603, 1604, 1605, 1606, 1607, 1608, 1609, 1610, 1611, 1612,
  1613, 1614, 1615, 1616, 1617, 1618, 1662, 1657, 1670, 1749, 1700, 1711, 1672, 1681, 123, 124,
  125, 1688, 1746]

/-- The upper half of `mac-latin2`. -/
def macLatin2 : List Nat := [
  196, 256, 257, 201, 260, 214, 220, 225, 261, 268, 228, 269, 262, 263, 233, 377, 378, 270, 237,
  271, 274, 275, 278, 243, 279, 244, 246, 245, 250, 282, 283, 252, 8224, 176, 280, 163, 167, 8226,
  182, 223, 174, 169, 8482, 281, 168, 8800, 291, 302, 303, 298, 8804, 8805, 299, 310, 8706, 8721,
  322, 315, 316, 317, 318, 313, 314, 325, 326, 323, 172, 8730, 324, 327, 8710, 171, 187, 8230, 160,
  328, 336, 213, 337, 332, 8211, 8212, 8220, 8221, 8216, 8217, 247, 9674, 333, 340, 341, 344, 8249,
  8250, 345, 342, 343, 352, 8218, 8222, 353, 346, 347, 193, 356, 357, 205, 381, 382, 362, 211, 212,
  363, 366, 218, 367, 368, 369, 370, 371, 221, 253, 311, 379, 321, 380, 290, 711]

/-- The upper half of `mac-croatian`. -/
def macCroatian : List Nat := [
  196, 197, 199, 201, 209, 214, 220, 225, 224, 226, 228, 227, 229, 231, 233, 232, 234, 235, 237,
  236, 238, 239, 241, 243, 242, 244, 246, 245, 250, 249, 251, 252, 8224, 176, 162, 163, 167, 8226,
  182, 223, 174, 352, 8482, 180, 168, 8800, 381, 216, 8734, 177, 8804, 8805, 8710, 181, 8706, 8721,
  8719, 353, 8747, 170, 186, 937, 382, 248, 191, 161, 172, 8730, 402, 8776, 262, 171, 268, 8230,
  160, 192, 195, 213, 338, 339, 272, 8212, 8220, 8221, 8216, 8217, 247, 9674, 63743, 169, 8260,
  8364, 8249, 8250, 198, 187, 8211, 183, 8218, 8222, 8240, 194, 263, 193, 269, 200, 205, 206, 207,
  204, 211, 212, 273, 210, 218, 219, 217, 305, 710, 732, 175, 960, 203, 730, 184, 202, 230, 711]

/-- The upper half of `mac-cyrillic`. -/
def macCyrillic : List Nat := [
  1040, 1041, 1042, 1043, 1044, 1045, 1046, 1047, 1048, 1049, 1050, 1051, 1052, 1053, 1054, 1055,
  1056, 1057, 1058, 1059, 1060, 1061, 1062, 1063, 1064, 1065, 1066, 1067, 1068, 1069, 1070, 1071,
  8224, 176, 1168, 163, 167, 8226, 182, 1030, 174, 169, 8482, 1026, 1106, 8800, 1027, 1107, 8734,
  177, 8804, 8805, 1110, 181, 1169, 1032, 1028, 1108, 1031, 1111, 1033, 1113, 1034, 1114, 1112,
  1029, 172, 8730, 402, 8776, 8710, 171, 187, 8230, 160, 1035, 1115, 1036, 1116, 1109, 8211, 8212,
  8220, 8221, 8216, 8217, 247, 8222, 1038, 1118, 1039, 1119, 8470, 1025, 1105, 1103, 1072, 1073,
  1074, 1075, 1076, 1077, 1078, 1079, 1080, 1081, 1082, 1083, 1084, 1085, 1086, 1087, 1088, 1089,
  1090, 1091, 1092, 1093, 1094, 1095, 1096, 1097, 1098, 1099, 1100, 1101, 1102, 8364]

/-- The upper half of `mac-farsi`. -/
def macFarsi : List Nat := [
  196, 160, 199, 201, 209, 214, 220, 225, 224, 226, 228, 1722, 171, 231, 233, 232, 234, 235, 237,
  8230, 238, 239, 241, 243, 187, 244, 246, 247, 250, 249, 251, 252, 32, 33, 34, 35, 36, 1642, 38,
  39, 40, 41, 42, 43, 1548, 45, 46, 47, 1776, 1777, 1778, 1779, 1780, 1781, 1782, 1783, 1784, 1785,
  58, 1563, 60, 61, 62, 1567, 10058, 1569, 1570, 1571, 1572, 1573, 1574, 1575, 1576, 1577, 1578,
  1579, 1580, 1581, 1582, 1583, 1584, 1585, 1586, 1587, 1588, 1589, 1590, 1591, 1592, 1593, 1594,
  91, 92, 93, 94, 95, 1600, 1601, 1602, 1603, 1604, 1605, 1606, 1607, 1608, 1609, 1610, 1611, 1612,
  1613, 1614, 1615, 1616, 1617, 1618, 1662, 1657, 1670, 1749, 1700, 1711, 1672, 1681, 123, 124,
  125, 1688, 1746]

/-- The upper half of `mac-greek`. -/
def macGreek : List Nat := [
  196, 185, 178, 201, 179, 214, 220, 901, 224, 226, 228, 900, 168, 231, 233, 232, 234, 235, 163,
  8482, 238, 239, 8226, 189, 8240, 244, 246, 166, 8364, 249, 251, 252, 8224, 915, 916, 920, 923,
  926, 928, 223, 174, 169, 931, 938, 167, 8800, 176, 183, 913, 177, 8804, 8805, 165, 914, 917, 918,
  919, 921, 922, 924, 934, 939, 936, 937, 940, 925, 172, 927, 929, 8776, 932, 171, 187, 8230, 160,
  933, 935, 902, 904, 339, 8211, 8213, 8220, 8221, 8216, 8217, 247, 905, 906, 908, 910, 941, 942,
  943, 972, 911, 973, 945, 946, 968, 948, 949, 966, 947, 951, 953, 958, 954, 955, 956, 957, 959,
  960, 974, 961, 963, 964, 952, 969, 962, 967, 965, 950, 970, 971, 912, 944, 173]

/-- The upper half of `mac-iceland`. -/
def macIceland : List Nat := [
  196, 197, 199, 201, 209, 214, 220, 225, 224, 226, 228, 227, 229, 231, 233, 232, 234, 235, 237,
  236, 238, 239, 241, 243, 242, 244, 246, 245, 250, 249, 251, 252, 221, 176, 162, 163, 167, 8226,
  182, 223, 174, 169, 8482, 180, 168, 8800, 198, 216, 8734, 177, 8804, 8805, 165, 181, 8706, 8721,
  8719, 960, 8747, 170, 186, 937, 230, 248, 191, 161, 172, 8730, 402, 8776, 8710, 171, 187, 8230,
  160, 192, 195, 213, 338, 339, 8211, 8212, 8220, 8221, 8216, 8217, 247, 9674, 255, 376, 8260,
  8364, 208, 240, 222, 254, 253, 183, 8218, 8222, 8240, 194, 202, 193, 203, 200, 205, 206, 207,
  204, 211, 212, 63743, 210, 218, 219, 217, 305, 710, 732, 175, 728, 729, 730, 184, 733, 731, 711]

/-- The upper half of `mac-roman`. -/
def macRoman : List Nat := [
  196, 197, 199, 201, 209, 214, 220, 225, 224, 226, 228, 227, 229, 231, 233, 232, 234, 235, 237,
  236, 238, 239, 241, 243, 242, 244, 246, 245, 250, 249, 251, 252, 8224, 176, 162, 163, 167, 8226,
  182, 223, 174, 169, 8482, 180, 168, 8800, 198, 216, 8734, 177, 8804, 8805, 165, 181, 8706, 8721,
  8719, 960, 8747, 170, 186, 937, 230, 248, 191, 161, 172, 8730, 402, 8776, 8710, 171, 187, 8230,
  160, 192, 195, 213, 338, 339, 8211, 8212, 8220, 8221, 8216, 8217, 247, 9674, 255, 376, 8260,
  8364, 8249, 8250, 64257, 64258, 8225, 183, 8218, 8222, 8240, 194, 202, 193, 203, 200, 205, 206,
  207, 204, 211, 212, 63743, 210, 218, 219, 217, 305, 710, 732, 175, 728, 729, 730, 184, 733, 731,
  711]

/-- The upper half of `mac-romanian`. -/
def macRomanian : List Nat := [
  196, 197, 199, 201, 209, 214, 220, 225, 224, 226, 228, 227, 229, 231, 233, 232, 234, 235, 237,
  236, 238, 239, 241, 243, 242, 244, 246, 245, 250, 249, 251, 252, 8224, 176, 162, 163, 167, 8226,
  182, 223, 174, 169, 8482, 180, 168, 8800, 258, 536, 8734, 177, 8804, 8805, 165, 181, 8706, 8721,
  8719, 960, 8747, 170, 186, 937, 259, 537, 191, 161, 172, 8730, 402, 8776, 8710, 171, 187, 8230,
  160, 192, 195, 213, 338, 339, 8211, 8212, 8220, 8221, 8216, 8217, 247, 9674, 255, 376, 8260,
  8364, 8249, 8250, 538, 539, 8225, 183, 8218, 8222, 8240, 194, 202, 193, 203, 200, 205, 206, 207,
  204, 211, 212, 63743, 210, 218, 219, 217, 305, 710, 732, 175, 728, 729, 730, 184, 733, 731, 711]

/-- The upper half of `mac-turkish`. -/
def macTurkish : List Nat := [
  196, 197, 199, 201, 209, 214, 220, 225, 224, 226, 228, 227, 229, 231, 233, 232, 234, 235, 237,
  236, 238, 239, 241, 243, 242, 244, 246, 245, 250, 249, 251, 252, 8224, 176, 162, 163, 167, 8226,
  182, 223, 174, 169, 8482, 180, 168, 8800, 198, 216, 8734, 177, 8804, 8805, 165, 181, 8706, 8721,
  8719, 960, 8747, 170, 186, 937, 230, 248, 191, 161, 172, 8730, 402, 8776, 8710, 171, 187, 8230,
  160, 192, 195, 213, 338, 339, 8211, 8212, 8220, 8221, 8216, 8217, 247, 9674, 255, 376, 286, 287,
  304, 305, 350, 351, 8225, 183, 8218, 8222, 8240, 194, 202, 193, 203, 200, 205, 206, 207, 204,
  211, 212, 63743, 210, 218, 219, 217, 63648, 710, 732, 175, 728, 729, 730, 184, 733, 731, 711]

end Workflows.Charset
