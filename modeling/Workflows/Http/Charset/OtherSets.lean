/-
The upper halves of more character sets: the code point of each octet from 128 on. An octet
without a character has the replacement character.
-/
namespace Workflows.Charset

/-- The upper half of `cp1006`. -/
def cp1006 : List Nat := [
  128, 129, 130, 131, 132, 133, 134, 135, 136, 137, 138, 139, 140, 141, 142, 143, 144, 145, 146,
  147, 148, 149, 150, 151, 152, 153, 154, 155, 156, 157, 158, 159, 160, 1776, 1777, 1778, 1779,
  1780, 1781, 1782, 1783, 1784, 1785, 1548, 1563, 173, 1567, 65153, 65165, 65166, 65166, 65167,
  65169, 64342, 64344, 65171, 65173, 65175, 64358, 64360, 65177, 65179, 65181, 65183, 64378, 64380,
  65185, 65187, 65189, 65191, 65193, 64388, 65195, 65197, 64396, 65199, 64394, 65201, 65203, 65205,
  65207, 65209, 65211, 65213, 65215, 65217, 65221, 65225, 65226, 65227, 65228, 65229, 65230, 65231,
  65232, 65233, 65235, 65237, 65239, 65241, 65243, 64402, 64404, 65245, 65247, 65248, 65249, 65251,
  64414, 65253, 65255, 65157, 65261, 64422, 64424, 64425, 64426, 65152, 65161, 65162, 65163, 65265,
  65266, 65267, 64432, 64430, 65148, 65149]

/-- The upper half of `hp-roman8`. -/
def hpRoman8 : List Nat := [
  128, 129, 130, 131, 132, 133, 134, 135, 136, 137, 138, 139, 140, 141, 142, 143, 144, 145, 146,
  147, 148, 149, 150, 151, 152, 153, 154, 155, 156, 157, 158, 159, 160, 192, 194, 200, 202, 203,
  206, 207, 180, 715, 710, 168, 732, 217, 219, 8356, 175, 221, 253, 176, 199, 231, 209, 241, 161,
  191, 164, 163, 165, 167, 402, 162, 226, 234, 244, 251, 225, 233, 243, 250, 224, 232, 242, 249,
  228, 235, 246, 252, 197, 238, 216, 198, 229, 237, 248, 230, 196, 236, 214, 220, 201, 239, 223,
  212, 193, 195, 227, 208, 240, 205, 204, 211, 210, 213, 245, 352, 353, 218, 376, 255, 222, 254,
  183, 181, 182, 190, 8212, 188, 189, 170, 186, 171, 9632, 187, 177, 65533]

/-- The upper half of `ptcp154`. -/
def ptcp154 : List Nat := [
  1174, 1170, 1262, 1171, 8222, 8230, 1206, 1198, 1202, 1199, 1184, 1250, 1186, 1178, 1210, 1208,
  1175, 8216, 8217, 8220, 8221, 8226, 8211, 8212, 1203, 1207, 1185, 1251, 1187, 1179, 1211, 1209,
  160, 1038, 1118, 1032, 1256, 1176, 1200, 167, 1025, 169, 1240, 171, 172, 1263, 174, 1180, 176,
  1201, 1030, 1110, 1177, 1257, 182, 183, 1105, 8470, 1241, 187, 1112, 1194, 1195, 1181, 1040,
  1041, 1042, 1043, 1044, 1045, 1046, 1047, 1048, 1049, 1050, 1051, 1052, 1053, 1054, 1055, 1056,
  1057, 1058, 1059, 1060, 1061, 1062, 1063, 1064, 1065, 1066, 1067, 1068, 1069, 1070, 1071, 1072,
  1073, 1074, 1075, 1076, 1077, 1078, 1079, 1080, 1081, 1082, 1083, 1084, 1085, 1086, 1087, 1088,
  1089, 1090, 1091, 1092, 1093, 1094, 1095, 1096, 1097, 1098, 1099, 1100, 1101, 1102, 1103]

/-- The upper half of `koi8-r`. -/
def koi8R : List Nat := [
  9472, 9474, 9484, 9488, 9492, 9496, 9500, 9508, 9516, 9524, 9532, 9600, 9604, 9608, 9612, 9616,
  9617, 9618, 9619, 8992, 9632, 8729, 8730, 8776, 8804, 8805, 160, 8993, 176, 178, 183, 247, 9552,
  9553, 9554, 1105, 9555, 9556, 9557, 9558, 9559, 9560, 9561, 9562, 9563, 9564, 9565, 9566, 9567,
  9568, 9569, 1025, 9570, 9571, 9572, 9573, 9574, 9575, 9576, 9577, 9578, 9579, 9580, 169, 1102,
  1072, 1073, 1094, 1076, 1077, 1092, 1075, 1093, 1080, 1081, 1082, 1083, 1084, 1085, 1086, 1087,
  1103, 1088, 1089, 1090, 1091, 1078, 1074, 1100, 1099, 1079, 1096, 1101, 1097, 1095, 1098, 1070,
  1040, 1041, 1062, 1044, 1045, 1060, 1043, 1061, 1048, 1049, 1050, 1051, 1052, 1053, 1054, 1055,
  1071, 1056, 1057, 1058, 1059, 1046, 1042, 1068, 1067, 1047, 1064, 1069, 1065, 1063, 1066]

/-- The upper half of `tis-620`. -/
def tisx620 : List Nat := [
  128, 129, 130, 131, 132, 133, 134, 135, 136, 137, 138, 139, 140, 141, 142, 143, 144, 145, 146,
  147, 148, 149, 150, 151, 152, 153, 154, 155, 156, 157, 158, 159, 65533, 3585, 3586, 3587, 3588,
  3589, 3590, 3591, 3592, 3593, 3594, 3595, 3596, 3597, 3598, 3599, 3600, 3601, 3602, 3603, 3604,
  3605, 3606, 3607, 3608, 3609, 3610, 3611, 3612, 3613, 3614, 3615, 3616, 3617, 3618, 3619, 3620,
  3621, 3622, 3623, 3624, 3625, 3626, 3627, 3628, 3629, 3630, 3631, 3632, 3633, 3634, 3635, 3636,
  3637, 3638, 3639, 3640, 3641, 3642, 65533, 65533, 65533, 65533, 3647, 3648, 3649, 3650, 3651,
  3652, 3653, 3654, 3655, 3656, 3657, 3658, 3659, 3660, 3661, 3662, 3663, 3664, 3665, 3666, 3667,
  3668, 3669, 3670, 3671, 3672, 3673, 3674, 3675, 65533, 65533, 65533, 65533]

/-- The upper half of `koi8-t`. -/
def koi8T : List Nat := [
  1179, 1171, 8218, 1170, 8222, 8230, 8224, 8225, 65533, 8240, 1203, 8249, 1202, 1207, 1206, 65533,
  1178, 8216, 8217, 8220, 8221, 8226, 8211, 8212, 65533, 8482, 65533, 8250, 65533, 65533, 65533,
  65533, 65533, 1263, 1262, 1105, 164, 1251, 166, 167, 65533, 65533, 65533, 171, 172, 173, 174,
  65533, 176, 177, 178, 1025, 65533, 1250, 182, 183, 65533, 8470, 65533, 187, 65533, 65533, 65533,
  169, 1102, 1072, 1073, 1094, 1076, 1077, 1092, 1075, 1093, 1080, 1081, 1082, 1083, 1084, 1085,
  1086, 1087, 1103, 1088, 1089, 1090, 1091, 1078, 1074, 1100, 1099, 1079, 1096, 1101, 1097, 1095,
  1098, 1070, 1040, 1041, 1062, 1044, 1045, 1060, 1043, 1061, 1048, 1049, 1050, 1051, 1052, 1053,
  1054, 1055, 1071, 1056, 1057, 1058, 1059, 1046, 1042, 1068, 1067, 1047, 1064, 1069, 1065, 1063,
  1066]

/-- The upper half of `koi8-u`. -/
def koi8U : List Nat := [
  9472, 9474, 9484, 9488, 9492, 9496, 9500, 9508, 9516, 9524, 9532, 9600, 9604, 9608, 9612, 9616,
  9617, 9618, 9619, 8992, 9632, 8729, 8730, 8776, 8804, 8805, 160, 8993, 176, 178, 183, 247, 9552,
  9553, 9554, 1105, 1108, 9556, 1110, 1111, 9559, 9560, 9561, 9562, 9563, 1169, 9565, 9566, 9567,
  9568, 9569, 1025, 1028, 9571, 1030, 1031, 9574, 9575, 9576, 9577, 9578, 1168, 9580, 169, 1102,
  1072, 1073, 1094, 1076, 1077, 1092, 1075, 1093, 1080, 1081, 1082, 1083, 1084, 1085, 1086, 1087,
  1103, 1088, 1089, 1090, 1091, 1078, 1074, 1100, 1099, 1079, 1096, 1101, 1097, 1095, 1098, 1070,
  1040, 1041, 1062, 1044, 1045, 1060, 1043, 1061, 1048, 1049, 1050, 1051, 1052, 1053, 1054, 1055,
  1071, 1056, 1057, 1058, 1059, 1046, 1042, 1068, 1067, 1047, 1064, 1069, 1065, 1063, 1066]

/-- The upper half of `kz1048`. -/
def kz1048 : List Nat := [
  1026, 1027, 8218, 1107, 8222, 8230, 8224, 8225, 8364, 8240, 1033, 8249, 1034, 1178, 1210, 1039,
  1106, 8216, 8217, 8220, 8221, 8226, 8211, 8212, 65533, 8482, 1113, 8250, 1114, 1179, 1211, 1119,
  160, 1200, 1201, 1240, 164, 1256, 166, 167, 1025, 169, 1170, 171, 172, 173, 174, 1198, 176, 177,
  1030, 1110, 1257, 181, 182, 183, 1105, 8470, 1171, 187, 1241, 1186, 1187, 1199, 1040, 1041, 1042,
  1043, 1044, 1045, 1046, 1047, 1048, 1049, 1050, 1051, 1052, 1053, 1054, 1055, 1056, 1057, 1058,
  1059, 1060, 1061, 1062, 1063, 1064, 1065, 1066, 1067, 1068, 1069, 1070, 1071, 1072, 1073, 1074,
  1075, 1076, 1077, 1078, 1079, 1080, 1081, 1082, 1083, 1084, 1085, 1086, 1087, 1088, 1089, 1090,
  1091, 1092, 1093, 1094, 1095, 1096, 1097, 1098, 1099, 1100, 1101, 1102, 1103]

/-- The upper half of `palmos`. -/
def palmos : List Nat := [
  8364, 129, 8218, 402, 8222, 8230, 8224, 8225, 710, 8240, 352, 8249, 338, 9830, 9827, 9829, 9824,
  8216, 8217, 8220, 8221, 8226, 8211, 8212, 732, 8482, 353, 155, 339, 157, 158, 376, 160, 161, 162,
  163, 164, 165, 166, 167, 168, 169, 170, 171, 172, 173, 174, 175, 176, 177, 178, 179, 180, 181,
  182, 183, 184, 185, 186, 187, 188, 189, 190, 191, 192, 193, 194, 195, 196, 197, 198, 199, 200,
  201, 202, 203, 204, 205, 206, 207, 208, 209, 210, 211, 212, 213, 214, 215, 216, 217, 218, 219,
  220, 221, 222, 223, 224, 225, 226, 227, 228, 229, 230, 231, 232, 233, 234, 235, 236, 237, 238,
  239, 240, 241, 242, 243, 244, 245, 246, 247, 248, 249, 250, 251, 252, 253, 254, 255]

end Workflows.Charset
