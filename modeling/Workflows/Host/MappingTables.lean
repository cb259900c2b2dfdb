/-
How the characters of host names are mapped, as data of the Unicode standard: letters lose their
case and their width, some characters become several, some are left out and some are not allowed.
A character that composition replaces is not listed.
-/
import Workflows.Text.CaseTables

namespace Workflows.Host

open Workflows.Text

/-- A part of the table of `mappedRuns`. -/
def mappedRunsA : List CaseRun := [
  ⟨65, 90, 1, 32⟩, ⟨178, 179, 1, -128⟩, ⟨192, 214, 1, 32⟩, ⟨216, 222, 1, 32⟩, ⟨256, 302, 2, 1⟩,
  ⟨308, 310, 2, 1⟩, ⟨313, 317, 2, 1⟩, ⟨321, 327, 2, 1⟩, ⟨330, 374, 2, 1⟩, ⟨377, 381, 2, 1⟩,
  ⟨386, 388, 2, 1⟩, ⟨393, 394, 1, 205⟩, ⟨416, 420, 2, 1⟩, ⟨433, 434, 1, 217⟩, ⟨435, 437, 2, 1⟩,
  ⟨461, 475, 2, 1⟩, ⟨478, 494, 2, 1⟩, ⟨504, 542, 2, 1⟩, ⟨546, 562, 2, 1⟩, ⟨582, 590, 2, 1⟩,
  ⟨688, 690, 2, -584⟩, ⟨880, 882, 2, 1⟩, ⟨904, 906, 1, 37⟩, ⟨910, 911, 1, 63⟩, ⟨913, 929, 1, 32⟩,
  ⟨931, 939, 1, 32⟩, ⟨984, 1006, 2, 1⟩, ⟨1021, 1023, 1, -130⟩, ⟨1024, 1039, 1, 80⟩,
  ⟨1040, 1071, 1, 32⟩, ⟨1120, 1152, 2, 1⟩, ⟨1162, 1214, 2, 1⟩, ⟨1217, 1229, 2, 1⟩,
  ⟨1232, 1326, 2, 1⟩, ⟨1329, 1366, 1, 48⟩, ⟨4256, 4293, 1, 7264⟩, ⟨5112, 5117, 1, -8⟩,
  ⟨7299, 7300, 1, -6210⟩, ⟨7312, 7354, 1, -3008⟩, ⟨7357, 7359, 1, -3008⟩, ⟨7470, 7472, 2, -7372⟩,
  ⟨7473, 7481, 2, -7372⟩, ⟨7476, 7482, 2, -7372⟩, ⟨7488, 7489, 1, -7372⟩, ⟨7492, 7493, 1, -6900⟩,
  ⟨7496, 7497, 1, -7396⟩, ⟨7499, 7500, 1, -6896⟩, ⟨7504, 7506, 2, -7395⟩, ⟨7508, 7509, 1, -62⟩,
  ⟨7511, 7512, 1, -7395⟩, ⟨7517, 7519, 1, -6571⟩, ⟨7520, 7521, 1, -6554⟩, ⟨7524, 7525, 1, -7407⟩,
  ⟨7526, 7527, 1, -6580⟩, ⟨7529, 7530, 1, -6563⟩, ⟨7588, 7590, 1, -6972⟩, ⟨7598, 7601, 1, -6972⟩,
  ⟨7603, 7604, 1, -6961⟩, ⟨7606, 7607, 1, -6957⟩, ⟨7609, 7610, 1, -6958⟩, ⟨7612, 7614, 1, -6956⟩,
  ⟨7680, 7828, 2, 1⟩, ⟨7840, 7934, 2, 1⟩, ⟨7944, 7951, 1, -8⟩, ⟨7960, 7965, 1, -8⟩,
  ⟨7976, 7983, 1, -8⟩, ⟨7992, 7999, 1, -8⟩, ⟨8008, 8013, 1, -8⟩, ⟨8025, 8031, 2, -8⟩,
  ⟨8040, 8047, 1, -8⟩, ⟨8120, 8121, 1, -8⟩, ⟨8136, 8138, 2, -86⟩, ⟨8152, 8153, 1, -8⟩,
  ⟨8168, 8169, 1, -8⟩, ⟨8185, 8187, 2, -7213⟩, ⟨8308, 8313, 1, -8256⟩, ⟨8317, 8318, 1, -8277⟩,
  ⟨8320, 8329, 1, -8272⟩, ⟨8333, 8334, 1, -8293⟩, ⟨8342, 8345, 1, -8235⟩, ⟨8347, 8348, 1, -8232⟩,
  ⟨8458, 8459, 1, -8355⟩, ⟨8467, 8469, 2, -8359⟩, ⟨8473, 8475, 1, -8361⟩, ⟨8492, 8493, 1, -8394⟩,
  ⟨8496, 8497, 1, -8395⟩, ⟨8501, 8504, 1, -7013⟩, ⟨8518, 8519, 1, -8418⟩, ⟨8520, 8521, 1, -8415⟩,
  ⟨8557, 8558, 1, -8458⟩, ⟨8573, 8574, 1, -8474⟩, ⟨9312, 9320, 1, -9263⟩, ⟨9398, 9423, 1, -9301⟩,
  ⟨9424, 9449, 1, -9327⟩, ⟨11264, 11311, 1, 48⟩, ⟨11367, 11371, 2, 1⟩, ⟨11390, 11391, 1, -10815⟩,
  ⟨11392, 11490, 2, 1⟩, ⟨11499, 11501, 2, 1⟩, ⟨12345, 12346, 1, 8971⟩, ⟨12593, 12594, 1, -8241⟩,
  ⟨12595, 12597, 2, -8073⟩, ⟨12599, 12601, 1, -8244⟩, ⟨12602, 12607, 1, -8074⟩,
  ⟨12609, 12611, 1, -8251⟩, ⟨12613, 12622, 1, -8252⟩, ⟨12623, 12643, 1, -8174⟩,
  ⟨12645, 12646, 1, -8273⟩, ⟨12647, 12648, 1, -8096⟩, ⟨12657, 12658, 1, -8276⟩,
  ⟨12660, 12661, 1, -8274⟩, ⟨12664, 12668, 1, -8269⟩, ⟨12674, 12675, 1, -8081⟩,
  ⟨12676, 12678, 1, -8237⟩, ⟨12679, 12680, 1, -8195⟩, ⟨12682, 12683, 1, -8185⟩,
  ⟨12897, 12898, 1, -8543⟩, ⟨12899, 12901, 1, -8542⟩, ⟨12903, 12904, 1, -8540⟩,
  ⟨12905, 12909, 1, -8539⟩, ⟨13012, 13013, 1, -554⟩, ⟨13028, 13033, 1, -538⟩,
  ⟨13038, 13042, 1, -528⟩, ⟨13045, 13050, 1, -525⟩, ⟨13051, 13054, 1, -524⟩, ⟨42560, 42604, 2, 1⟩,
  ⟨42624, 42650, 2, 1⟩, ⟨42786, 42798, 2, 1⟩, ⟨42802, 42862, 2, 1⟩, ⟨42873, 42875, 2, 1⟩,
  ⟨42878, 42886, 2, 1⟩, ⟨42896, 42898, 2, 1⟩, ⟨42902, 42920, 2, 1⟩, ⟨42932, 42946, 2, 1⟩,
  ⟨42951, 42953, 2, 1⟩, ⟨42956, 42970, 2, 1⟩, ⟨43888, 43967, 1, -38864⟩, ⟨64290, 64291, 1, -62799⟩,
  ⟨64292, 64294, 1, -62793⟩, ⟨64344, 64346, 2, -62682⟩, ⟨64345, 64347, 2, -62683⟩,
  ⟨64364, 64366, 2, -62664⟩, ⟨64365, 64367, 2, -62665⟩, ⟨64381, 64382, 1, -62711⟩,
  ⟨64388, 64390, 2, -62712⟩, ⟨64389, 64391, 2, -62713⟩, ⟨64415, 64416, 1, -62693⟩,
  ⟨64421, 64422, 1, -62693⟩, ⟨64431, 64432, 1, -62685⟩, ⟨64473, 64475, 2, -62739⟩]

/-- A part of the table of `mappedRuns`. -/
def mappedRunsB : List CaseRun := [
  ⟨64474, 64476, 2, -62740⟩, ⟨65043, 65044, 1, -64985⟩, ⟨65047, 65048, 1, -52737⟩,
  ⟨65077, 65078, 1, -65037⟩, ⟨65081, 65082, 1, -52773⟩, ⟨65083, 65084, 1, -52779⟩,
  ⟨65085, 65086, 1, -52787⟩, ⟨65087, 65088, 1, -52791⟩, ⟨65089, 65092, 1, -52789⟩,
  ⟨65113, 65114, 1, -65073⟩, ⟨65117, 65118, 1, -52809⟩, ⟨65121, 65122, 1, -65079⟩,
  ⟨65129, 65130, 1, -65093⟩, ⟨65152, 65153, 1, -63583⟩, ⟨65154, 65155, 1, -63584⟩,
  ⟨65156, 65157, 1, -63585⟩, ⟨65158, 65159, 1, -63586⟩, ⟨65160, 65161, 1, -63587⟩,
  ⟨65164, 65165, 1, -63590⟩, ⟨65166, 65167, 1, -63591⟩, ⟨65170, 65171, 1, -63594⟩,
  ⟨65172, 65173, 1, -63595⟩, ⟨65176, 65177, 1, -63598⟩, ⟨65180, 65181, 1, -63601⟩,
  ⟨65184, 65185, 1, -63604⟩, ⟨65188, 65189, 1, -63607⟩, ⟨65192, 65193, 1, -63610⟩,
  ⟨65194, 65195, 1, -63611⟩, ⟨65196, 65197, 1, -63612⟩, ⟨65198, 65199, 1, -63613⟩,
  ⟨65200, 65201, 1, -63614⟩, ⟨65204, 65205, 1, -63617⟩, ⟨65208, 65209, 1, -63620⟩,
  ⟨65212, 65213, 1, -63623⟩, ⟨65216, 65217, 1, -63626⟩, ⟨65220, 65221, 1, -63629⟩,
  ⟨65224, 65225, 1, -63632⟩, ⟨65228, 65229, 1, -63635⟩, ⟨65236, 65237, 1, -63635⟩,
  ⟨65240, 65241, 1, -63638⟩, ⟨65244, 65245, 1, -63641⟩, ⟨65248, 65249, 1, -63644⟩,
  ⟨65252, 65253, 1, -63647⟩, ⟨65256, 65257, 1, -63650⟩, ⟨65260, 65261, 1, -63653⟩,
  ⟨65262, 65263, 1, -63654⟩, ⟨65264, 65265, 1, -63655⟩, ⟨65281, 65312, 1, -65248⟩,
  ⟨65313, 65338, 1, -65216⟩, ⟨65339, 65374, 1, -65248⟩, ⟨65375, 65376, 1, -54746⟩,
  ⟨65378, 65379, 1, -53078⟩, ⟨65397, 65398, 1, -52939⟩, ⟨65413, 65418, 1, -52923⟩,
  ⟨65423, 65427, 1, -52913⟩, ⟨65430, 65435, 1, -52910⟩, ⟨65438, 65439, 1, -52997⟩,
  ⟨65441, 65442, 1, -61089⟩, ⟨65443, 65445, 2, -60921⟩, ⟨65447, 65449, 1, -61092⟩,
  ⟨65450, 65455, 1, -60922⟩, ⟨65457, 65459, 1, -61099⟩, ⟨65461, 65470, 1, -61100⟩,
  ⟨65474, 65479, 1, -61025⟩, ⟨65482, 65487, 1, -61027⟩, ⟨65490, 65495, 1, -61029⟩,
  ⟨65498, 65500, 1, -61031⟩, ⟨65504, 65505, 1, -65342⟩, ⟨65513, 65516, 1, -56921⟩,
  ⟨66560, 66599, 1, 40⟩, ⟨66736, 66771, 1, 40⟩, ⟨66928, 66964, 2, 39⟩, ⟨66929, 66937, 2, 39⟩,
  ⟨66941, 66953, 2, 39⟩, ⟨66957, 66961, 2, 39⟩, ⟨67457, 67458, 1, -66737⟩,
  ⟨67463, 67465, 2, -66788⟩, ⟨67467, 67468, 1, -66869⟩, ⟨67481, 67482, 1, -66799⟩,
  ⟨67491, 67492, 1, -66861⟩, ⟨67496, 67497, 1, -66859⟩, ⟨67507, 67508, 1, -66834⟩,
  ⟨67510, 67512, 1, -67062⟩, ⟨68736, 68786, 1, 64⟩, ⟨68944, 68965, 1, 32⟩, ⟨71840, 71871, 1, 32⟩,
  ⟨93760, 93791, 1, 32⟩, ⟨93856, 93880, 1, 27⟩, ⟨117974, 117999, 1, -117877⟩,
  ⟨118000, 118009, 1, -117952⟩, ⟨119808, 119833, 1, -119711⟩, ⟨119834, 119859, 1, -119737⟩,
  ⟨119860, 119885, 1, -119763⟩, ⟨119886, 119910, 2, -119789⟩, ⟨119887, 119891, 2, -119789⟩,
  ⟨119895, 119911, 2, -119789⟩, ⟨119912, 119937, 1, -119815⟩, ⟨119938, 119963, 1, -119841⟩,
  ⟨119964, 119966, 2, -119867⟩, ⟨119973, 119974, 1, -119867⟩, ⟨119977, 119980, 1, -119867⟩,
  ⟨119982, 119989, 1, -119867⟩, ⟨119990, 119993, 1, -119893⟩, ⟨119995, 120015, 2, -119893⟩,
  ⟨119998, 120002, 2, -119893⟩, ⟨120006, 120014, 2, -119893⟩, ⟨120016, 120041, 1, -119919⟩,
  ⟨120042, 120067, 1, -119945⟩, ⟨120068, 120069, 1, -119971⟩, ⟨120071, 120074, 1, -119971⟩,
  ⟨120077, 120084, 1, -119971⟩, ⟨120086, 120092, 1, -119971⟩, ⟨120094, 120119, 1, -119997⟩,
  ⟨120120, 120121, 1, -120023⟩, ⟨120123, 120126, 1, -120023⟩, ⟨120128, 120132, 1, -120023⟩,
  ⟨120138, 120144, 1, -120023⟩, ⟨120146, 120171, 1, -120049⟩, ⟨120172, 120197, 1, -120075⟩,
  ⟨120198, 120223, 1, -120101⟩, ⟨120224, 120249, 1, -120127⟩, ⟨120250, 120275, 1, -120153⟩,
  ⟨120276, 120301, 1, -120179⟩, ⟨120302, 120327, 1, -120205⟩, ⟨120328, 120353, 1, -120231⟩,
  ⟨120354, 120379, 1, -120257⟩, ⟨120380, 120405, 1, -120283⟩, ⟨120406, 120431, 1, -120309⟩,
  ⟨120432, 120457, 1, -120335⟩, ⟨120458, 120483, 1, -120361⟩, ⟨120488, 120504, 1, -119543⟩,
  ⟨120506, 120512, 1, -119543⟩, ⟨120514, 120530, 1, -119569⟩, ⟨120532, 120538, 1, -119569⟩,
  ⟨120546, 120562, 1, -119601⟩, ⟨120564, 120570, 1, -119601⟩, ⟨120572, 120588, 1, -119627⟩,
  ⟨120590, 120596, 1, -119627⟩, ⟨120604, 120620, 1, -119659⟩, ⟨120622, 120628, 1, -119659⟩,
  ⟨120630, 120646, 1, -119685⟩, ⟨120648, 120654, 1, -119685⟩, ⟨120662, 120678, 1, -119717⟩,
  ⟨120680, 120686, 1, -119717⟩, ⟨120688, 120704, 1, -119743⟩, ⟨120706, 120712, 1, -119743⟩,
  ⟨120720, 120736, 1, -119775⟩, ⟨120738, 120744, 1, -119775⟩, ⟨120746, 120762, 1, -119801⟩,
  ⟨120764, 120770, 1, -119801⟩]

/-- A part of the table of `mappedRuns`. -/
def mappedRunsC : List CaseRun := [
  ⟨120782, 120791, 1, -120734⟩, ⟨120792, 120801, 1, -120744⟩, ⟨120802, 120811, 1, -120754⟩,
  ⟨120812, 120821, 1, -120764⟩, ⟨120822, 120831, 1, -120774⟩, ⟨122928, 122936, 1, -121856⟩,
  ⟨122937, 122939, 1, -121855⟩, ⟨122940, 122950, 1, -121854⟩, ⟨122952, 122953, 1, -121851⟩,
  ⟨122961, 122969, 1, -121889⟩, ⟨122970, 122971, 1, -121888⟩, ⟨122972, 122973, 1, -121886⟩,
  ⟨122975, 122980, 1, -121884⟩, ⟨122981, 122982, 1, -121883⟩, ⟨125184, 125217, 1, 34⟩,
  ⟨126464, 126465, 1, -124889⟩, ⟨126474, 126477, 1, -124871⟩, ⟨126485, 126486, 1, -124907⟩,
  ⟨126506, 126509, 1, -124903⟩, ⟨126517, 126518, 1, -124939⟩, ⟨126539, 126541, 2, -124935⟩,
  ⟨126570, 126572, 2, -124967⟩, ⟨126581, 126582, 1, -125003⟩, ⟨126592, 126593, 1, -125017⟩,
  ⟨126596, 126597, 1, -124989⟩, ⟨126603, 126605, 1, -124999⟩, ⟨126613, 126614, 1, -125035⟩,
  ⟨126635, 126637, 1, -125031⟩, ⟨126645, 126646, 1, -125067⟩, ⟨127280, 127305, 1, -127183⟩,
  ⟨130032, 130041, 1, -129984⟩]

/-- Runs of characters, each of which another one at a fixed distance stands for. -/
def mappedRuns : List CaseRun :=
  mappedRunsA ++ mappedRunsB ++ mappedRunsC

/-- A part of the table of `mappedSingly`. -/
def mappedSinglyA : List (Nat × Nat) := [
  (160, 32), (170, 97), (181, 956), (185, 49), (186, 111), (376, 255), (383, 115), (385, 595),
  (390, 596), (391, 392), (395, 396), (398, 477), (399, 601), (400, 603), (401, 402), (403, 608),
  (404, 611), (406, 617), (407, 616), (408, 409), (412, 623), (413, 626), (415, 629), (422, 640),
  (423, 424), (425, 643), (428, 429), (430, 648), (431, 432), (439, 658), (440, 441), (444, 445),
  (500, 501), (502, 405), (503, 447), (544, 414), (570, 11365), (571, 572), (573, 410),
  (574, 11366), (577, 578), (579, 384), (580, 649), (581, 652), (689, 614), (691, 114), (692, 633),
  (693, 635), (694, 641), (695, 119), (696, 121), (736, 611), (737, 108), (738, 115), (739, 120),
  (740, 661), (837, 953), (886, 887), (895, 1011), (902, 940), (908, 972), (975, 983), (976, 946),
  (977, 952), (978, 965), (979, 973), (980, 971), (981, 966), (982, 960), (1008, 954), (1009, 961),
  (1010, 963), (1012, 952), (1013, 949), (1015, 1016), (1017, 963), (1018, 1019), (1216, 1231),
  (3852, 3851), (4295, 11559), (4301, 11565), (4348, 4316), (7296, 1074), (7297, 1076),
  (7298, 1086), (7301, 1090), (7302, 1098), (7303, 1123), (7304, 42571), (7305, 7306), (7468, 97),
  (7469, 230), (7474, 477), (7484, 111), (7485, 547), (7486, 112), (7487, 114), (7490, 119),
  (7491, 97), (7494, 7426), (7495, 98), (7498, 601), (7501, 103), (7503, 107), (7505, 331),
  (7507, 596), (7510, 112), (7513, 7453), (7514, 623), (7515, 118), (7516, 7461), (7522, 105),
  (7523, 114), (7528, 961), (7544, 1085), (7579, 594), (7580, 99), (7581, 597), (7582, 240),
  (7583, 604), (7584, 102), (7585, 607), (7586, 609), (7587, 613), (7591, 7547), (7592, 669),
  (7593, 621), (7594, 7557), (7595, 671), (7596, 625), (7597, 624), (7602, 632), (7605, 427),
  (7608, 7452), (7611, 122), (7615, 952), (7835, 7777), (7838, 223), (8122, 8048), (8123, 940),
  (8137, 941), (8139, 942), (8154, 8054), (8155, 943), (8170, 8058), (8171, 973), (8172, 8165),
  (8184, 8056), (8186, 8060), (8192, 32)]

/-- A part of the table of `mappedSingly`. -/
def mappedSinglyB : List (Nat × Nat) := [
  (8193, 32), (8194, 32), (8195, 32), (8196, 32), (8197, 32), (8198, 32), (8199, 32), (8200, 32),
  (8201, 32), (8202, 32), (8209, 8208), (8239, 32), (8287, 32), (8304, 48), (8305, 105),
  (8314, 43), (8315, 8722), (8316, 61), (8319, 110), (8330, 43), (8331, 8722), (8332, 61),
  (8336, 97), (8337, 101), (8338, 111), (8339, 120), (8340, 601), (8341, 104), (8346, 112),
  (8450, 99), (8455, 603), (8460, 104), (8461, 104), (8462, 104), (8463, 295), (8464, 105),
  (8465, 105), (8466, 108), (8476, 114), (8477, 114), (8484, 122), (8486, 969), (8488, 122),
  (8490, 107), (8491, 229), (8495, 101), (8498, 8526), (8499, 109), (8500, 111), (8505, 105),
  (8508, 960), (8509, 947), (8510, 947), (8511, 960), (8512, 8721), (8517, 100), (8544, 105),
  (8548, 118), (8553, 120), (8556, 108), (8559, 109), (8560, 105), (8564, 118), (8569, 120),
  (8572, 108), (8575, 109), (8579, 8580), (9450, 48), (11360, 11361), (11362, 619), (11363, 7549),
  (11364, 637), (11373, 593), (11374, 625), (11375, 592), (11376, 594), (11378, 11379),
  (11381, 11382), (11388, 106), (11389, 118), (11506, 11507), (11631, 11617), (11935, 27597),
  (12019, 40863), (12032, 19968), (12033, 20008), (12034, 20022), (12035, 20031), (12036, 20057),
  (12037, 20101), (12038, 20108), (12039, 20128), (12040, 20154), (12041, 20799), (12042, 20837),
  (12043, 20843), (12044, 20866), (12045, 20886), (12046, 20907), (12047, 20960), (12048, 20981),
  (12049, 20992), (12050, 21147), (12051, 21241), (12052, 21269), (12053, 21274), (12054, 21304),
  (12055, 21313), (12056, 21340), (12057, 21353), (12058, 21378), (12059, 21430), (12060, 21448),
  (12061, 21475), (12062, 22231), (12063, 22303), (12064, 22763), (12065, 22786), (12066, 22794),
  (12067, 22805), (12068, 22823), (12069, 22899), (12070, 23376), (12071, 23424), (12072, 23544),
  (12073, 23567), (12074, 23586), (12075, 23608), (12076, 23662), (12077, 23665), (12078, 24027),
  (12079, 24037), (12080, 24049), (12081, 24062), (12082, 24178), (12083, 24186), (12084, 24191),
  (12085, 24308), (12086, 24318), (12087, 24331), (12088, 24339), (12089, 24400), (12090, 24417),
  (12091, 24435), (12092, 24515), (12093, 25096), (12094, 25142), (12095, 25163), (12096, 25903),
  (12097, 25908)]

/-- A part of the table of `mappedSingly`. -/
def mappedSinglyC : List (Nat × Nat) := [
  (12098, 25991), (12099, 26007), (12100, 26020), (12101, 26041), (12102, 26080), (12103, 26085),
  (12104, 26352), (12105, 26376), (12106, 26408), (12107, 27424), (12108, 27490), (12109, 27513),
  (12110, 27571), (12111, 27595), (12112, 27604), (12113, 27611), (12114, 27663), (12115, 27668),
  (12116, 27700), (12117, 28779), (12118, 29226), (12119, 29238), (12120, 29243), (12121, 29247),
  (12122, 29255), (12123, 29273), (12124, 29275), (12125, 29356), (12126, 29572), (12127, 29577),
  (12128, 29916), (12129, 29926), (12130, 29976), (12131, 29983), (12132, 29992), (12133, 30000),
  (12134, 30091), (12135, 30098), (12136, 30326), (12137, 30333), (12138, 30382), (12139, 30399),
  (12140, 30446), (12141, 30683), (12142, 30690), (12143, 30707), (12144, 31034), (12145, 31160),
  (12146, 31166), (12147, 31348), (12148, 31435), (12149, 31481), (12150, 31859), (12151, 31992),
  (12152, 32566), (12153, 32593), (12154, 32650), (12155, 32701), (12156, 32769), (12157, 32780),
  (12158, 32786), (12159, 32819), (12160, 32895), (12161, 32905), (12162, 33251), (12163, 33258),
  (12164, 33267), (12165, 33276), (12166, 33292), (12167, 33307), (12168, 33311), (12169, 33390),
  (12170, 33394), (12171, 33400), (12172, 34381), (12173, 34411), (12174, 34880), (12175, 34892),
  (12176, 34915), (12177, 35198), (12178, 35211), (12179, 35282), (12180, 35328), (12181, 35895),
  (12182, 35910), (12183, 35925), (12184, 35960), (12185, 35997), (12186, 36196), (12187, 36208),
  (12188, 36275), (12189, 36523), (12190, 36554), (12191, 36763), (12192, 36784), (12193, 36789),
  (12194, 37009), (12195, 37193), (12196, 37318), (12197, 37324), (12198, 37329), (12199, 38263),
  (12200, 38272), (12201, 38428), (12202, 38582), (12203, 38585), (12204, 38632), (12205, 38737),
  (12206, 38750), (12207, 38754), (12208, 38761), (12209, 38859), (12210, 38893), (12211, 38899),
  (12212, 38913), (12213, 39080), (12214, 39131), (12215, 39135), (12216, 39318), (12217, 39321),
  (12218, 39340), (12219, 39592), (12220, 39640), (12221, 39647), (12222, 39717), (12223, 39727),
  (12224, 39730), (12225, 39740), (12226, 39770), (12227, 40165), (12228, 40565), (12229, 40575),
  (12230, 40613), (12231, 40635), (12232, 40643), (12233, 40653), (12234, 40657), (12235, 40697),
  (12236, 40701), (12237, 40718), (12238, 40723), (12239, 40736), (12240, 40763), (12241, 40778),
  (12242, 40786), (12243, 40845), (12244, 40860), (12245, 40864), (12288, 32), (12290, 46)]

/-- A part of the table of `mappedSingly`. -/
def mappedSinglyD : List (Nat × Nat) := [
  (12342, 12306), (12344, 21313), (12596, 4354), (12598, 4525), (12608, 4378), (12612, 4385),
  (12649, 4556), (12650, 4558), (12651, 4563), (12652, 4567), (12653, 4569), (12654, 4380),
  (12655, 4573), (12656, 4575), (12659, 4384), (12662, 4391), (12663, 4393), (12669, 4402),
  (12670, 4406), (12671, 4416), (12672, 4423), (12673, 4428), (12681, 4488), (12684, 4500),
  (12685, 4510), (12686, 4513), (12690, 19968), (12691, 20108), (12692, 19977), (12693, 22235),
  (12694, 19978), (12695, 20013), (12696, 19979), (12697, 30002), (12698, 20057), (12699, 19993),
  (12700, 19969), (12701, 22825), (12702, 22320), (12703, 20154), (12868, 21839), (12869, 24188),
  (12870, 25991), (12871, 31631), (12896, 4352), (12902, 4361), (12910, 44032), (12911, 45208),
  (12912, 45796), (12913, 46972), (12914, 47560), (12915, 48148), (12916, 49324), (12917, 50500),
  (12918, 51088), (12919, 52264), (12920, 52852), (12921, 53440), (12922, 54028), (12923, 54616),
  (12926, 50864), (12928, 19968), (12929, 20108), (12930, 19977), (12931, 22235), (12932, 20116),
  (12933, 20845), (12934, 19971), (12935, 20843), (12936, 20061), (12937, 21313), (12938, 26376),
  (12939, 28779), (12940, 27700), (12941, 26408), (12942, 37329), (12943, 22303), (12944, 26085),
  (12945, 26666), (12946, 26377), (12947, 31038), (12948, 21517), (12949, 29305), (12950, 36001),
  (12951, 31069), (12952, 21172), (12953, 31192), (12954, 30007), (12955, 22899), (12956, 36969),
  (12957, 20778), (12958, 21360), (12959, 27880), (12960, 38917), (12961, 20241), (12962, 20889),
  (12963, 27491), (12964, 19978), (12965, 20013), (12966, 19979), (12967, 24038), (12968, 21491),
  (12969, 21307), (12970, 23447), (12971, 23398), (12972, 30435), (12973, 20225), (12974, 36039),
  (12975, 21332), (12976, 22812), (13008, 12450), (13009, 12452), (13010, 12454), (13011, 12456),
  (13014, 12461), (13015, 12463), (13016, 12465), (13017, 12467), (13018, 12469), (13019, 12471),
  (13020, 12473), (13021, 12475), (13022, 12477), (13023, 12479), (13024, 12481), (13025, 12484),
  (13026, 12486), (13027, 12488), (13034, 12498), (13035, 12501), (13036, 12504), (13037, 12507),
  (13043, 12516), (13044, 12518), (42652, 1098), (42653, 1100), (42864, 42863), (42877, 7545),
  (42891, 42892), (42893, 613), (42922, 614), (42923, 604), (42924, 609), (42925, 620),
  (42926, 618), (42928, 670), (42929, 647), (42930, 669), (42931, 43859), (42948, 42900)]

/-- A part of the table of `mappedSingly`. -/
def mappedSinglyE : List (Nat × Nat) := [
  (42949, 642), (42950, 7566), (42955, 612), (42972, 411), (42993, 115), (42994, 99), (42995, 102),
  (42996, 113), (42997, 42998), (43000, 295), (43001, 339), (43868, 42791), (43869, 43831),
  (43870, 619), (43871, 43858), (43881, 653), (64288, 1506), (64289, 1488), (64295, 1512),
  (64296, 1514), (64297, 43), (64336, 1649), (64337, 1649), (64338, 1659), (64339, 1659),
  (64340, 1659), (64341, 1659), (64342, 1662), (64343, 1662), (64348, 1664), (64349, 1664),
  (64350, 1658), (64351, 1658), (64352, 1658), (64353, 1658), (64354, 1663), (64355, 1663),
  (64356, 1663), (64357, 1663), (64358, 1657), (64359, 1657), (64360, 1657), (64361, 1657),
  (64362, 1700), (64363, 1700), (64368, 1702), (64369, 1702), (64370, 1668), (64371, 1668),
  (64372, 1668), (64373, 1668), (64374, 1667), (64375, 1667), (64376, 1667), (64377, 1667),
  (64378, 1670), (64379, 1670), (64380, 1670), (64383, 1671), (64384, 1671), (64385, 1671),
  (64386, 1677), (64387, 1677), (64392, 1672), (64393, 1672), (64394, 1688), (64395, 1688),
  (64396, 1681), (64397, 1681), (64398, 1705), (64399, 1705), (64400, 1705), (64401, 1705),
  (64402, 1711), (64403, 1711), (64404, 1711), (64405, 1711), (64406, 1715), (64407, 1715),
  (64408, 1715), (64409, 1715), (64410, 1713), (64411, 1713), (64412, 1713), (64413, 1713),
  (64414, 1722), (64417, 1723), (64418, 1723), (64419, 1723), (64420, 1728), (64423, 1729),
  (64424, 1729), (64425, 1729), (64426, 1726), (64427, 1726), (64428, 1726), (64429, 1726),
  (64430, 1746), (64433, 1747), (64467, 1709), (64468, 1709), (64469, 1709), (64470, 1709),
  (64471, 1735), (64472, 1735), (64478, 1739), (64479, 1739), (64480, 1733), (64481, 1733),
  (64482, 1737), (64483, 1737), (64484, 1744), (64485, 1744), (64486, 1744), (64487, 1744),
  (64488, 1609), (64489, 1609), (64508, 1740), (64509, 1740), (64510, 1740), (64511, 1740),
  (65040, 44), (65041, 12289), (65045, 33), (65046, 63), (65073, 8212), (65074, 8211), (65075, 95),
  (65076, 95), (65079, 123), (65080, 125), (65095, 91), (65096, 93), (65101, 95), (65102, 95),
  (65103, 95), (65104, 44), (65105, 12289), (65108, 59), (65109, 58), (65110, 63), (65111, 33),
  (65112, 8212), (65115, 123), (65116, 125), (65119, 35), (65120, 38), (65123, 45), (65124, 60),
  (65125, 62)]

/-- A part of the table of `mappedSingly`. -/
def mappedSinglyF : List (Nat × Nat) := [
  (65126, 61), (65128, 92), (65131, 64), (65162, 1574), (65163, 1574), (65168, 1576),
  (65169, 1576), (65174, 1578), (65175, 1578), (65178, 1579), (65179, 1579), (65182, 1580),
  (65183, 1580), (65186, 1581), (65187, 1581), (65190, 1582), (65191, 1582), (65202, 1587),
  (65203, 1587), (65206, 1588), (65207, 1588), (65210, 1589), (65211, 1589), (65214, 1590),
  (65215, 1590), (65218, 1591), (65219, 1591), (65222, 1592), (65223, 1592), (65226, 1593),
  (65227, 1593), (65230, 1594), (65231, 1594), (65232, 1594), (65233, 1601), (65234, 1601),
  (65235, 1601), (65238, 1602), (65239, 1602), (65242, 1603), (65243, 1603), (65246, 1604),
  (65247, 1604), (65250, 1605), (65251, 1605), (65254, 1606), (65255, 1606), (65258, 1607),
  (65259, 1607), (65266, 1610), (65267, 1610), (65268, 1610), (65377, 46), (65380, 12289),
  (65381, 12539), (65382, 12530), (65383, 12449), (65384, 12451), (65385, 12453), (65386, 12455),
  (65387, 12457), (65388, 12515), (65389, 12517), (65390, 12519), (65391, 12483), (65392, 12540),
  (65393, 12450), (65394, 12452), (65395, 12454), (65396, 12456), (65399, 12461), (65400, 12463),
  (65401, 12465), (65402, 12467), (65403, 12469), (65404, 12471), (65405, 12473), (65406, 12475),
  (65407, 12477), (65408, 12479), (65409, 12481), (65410, 12484), (65411, 12486), (65412, 12488),
  (65419, 12498), (65420, 12501), (65421, 12504), (65422, 12507), (65428, 12516), (65429, 12518),
  (65436, 12527), (65437, 12531), (65444, 4354), (65446, 4525), (65456, 4378), (65460, 4385),
  (65506, 172), (65508, 166), (65509, 165), (65510, 8361), (65512, 9474), (65517, 9632),
  (65518, 9675), (66965, 67004), (67459, 230), (67460, 665), (67461, 595), (67464, 43878),
  (67466, 676), (67469, 7569), (67470, 600), (67471, 606), (67472, 681), (67473, 612),
  (67474, 610), (67475, 608), (67476, 667), (67477, 295), (67478, 668), (67479, 615), (67480, 644),
  (67483, 620), (67484, 122628), (67485, 42894), (67486, 622), (67487, 122629), (67488, 654),
  (67489, 122630), (67490, 248), (67493, 113), (67494, 634), (67495, 122632), (67498, 640),
  (67499, 680), (67500, 678), (67501, 43879), (67502, 679), (67503, 648), (67504, 11377),
  (67506, 655), (67509, 664), (67513, 122634), (67514, 122654), (119967, 100), (119970, 103),
  (120134, 111), (120484, 305), (120485, 567), (120505, 952), (120513, 8711)]

/-- A part of the table of `mappedSingly`. -/
def mappedSinglyG : List (Nat × Nat) := [
  (120531, 963), (120539, 8706), (120540, 949), (120541, 952), (120542, 954), (120543, 966),
  (120544, 961), (120545, 960), (120563, 952), (120571, 8711), (120589, 963), (120597, 8706),
  (120598, 949), (120599, 952), (120600, 954), (120601, 966), (120602, 961), (120603, 960),
  (120621, 952), (120629, 8711), (120647, 963), (120655, 8706), (120656, 949), (120657, 952),
  (120658, 954), (120659, 966), (120660, 961), (120661, 960), (120679, 952), (120687, 8711),
  (120705, 963), (120713, 8706), (120714, 949), (120715, 952), (120716, 954), (120717, 966),
  (120718, 961), (120719, 960), (120737, 952), (120745, 8711), (120763, 963), (120771, 8706),
  (120772, 949), (120773, 952), (120774, 954), (120775, 966), (120776, 961), (120777, 960),
  (120778, 989), (120779, 989), (122951, 1099), (122954, 42633), (122955, 1241), (122956, 1110),
  (122957, 1112), (122958, 1257), (122959, 1199), (122960, 1231), (122974, 1089), (122983, 1169),
  (122984, 1110), (122985, 1109), (122986, 1119), (122987, 1195), (122988, 42577), (122989, 1201),
  (126466, 1580), (126467, 1583), (126469, 1608), (126470, 1586), (126471, 1581), (126472, 1591),
  (126473, 1610), (126478, 1587), (126479, 1593), (126480, 1601), (126481, 1589), (126482, 1602),
  (126483, 1585), (126484, 1588), (126487, 1582), (126488, 1584), (126489, 1590), (126490, 1592),
  (126491, 1594), (126492, 1646), (126493, 1722), (126494, 1697), (126495, 1647), (126497, 1576),
  (126498, 1580), (126500, 1607), (126503, 1581), (126505, 1610), (126510, 1587), (126511, 1593),
  (126512, 1601), (126513, 1589), (126514, 1602), (126516, 1588), (126519, 1582), (126521, 1590),
  (126523, 1594), (126530, 1580), (126535, 1581), (126537, 1610), (126542, 1587), (126543, 1593),
  (126545, 1589), (126546, 1602), (126548, 1588), (126551, 1582), (126553, 1590), (126555, 1594),
  (126557, 1722), (126559, 1647), (126561, 1576), (126562, 1580), (126564, 1607), (126567, 1581),
  (126568, 1591), (126569, 1610), (126573, 1606), (126574, 1587), (126575, 1593), (126576, 1601),
  (126577, 1589), (126578, 1602), (126580, 1588), (126583, 1582), (126585, 1590), (126586, 1592),
  (126587, 1594), (126588, 1646), (126590, 1697), (126594, 1580), (126595, 1583), (126598, 1586),
  (126599, 1581), (126600, 1591), (126601, 1610), (126606, 1587), (126607, 1593), (126608, 1601),
  (126609, 1589), (126610, 1602), (126611, 1585), (126612, 1588), (126615, 1582), (126616, 1584)]

/-- A part of the table of `mappedSingly`. -/
def mappedSinglyH : List (Nat × Nat) := [
  (126617, 1590), (126618, 1592), (126619, 1594), (126625, 1576), (126626, 1580), (126627, 1583),
  (126629, 1608), (126630, 1586), (126631, 1581), (126632, 1591), (126633, 1610), (126638, 1587),
  (126639, 1593), (126640, 1601), (126641, 1589), (126642, 1602), (126643, 1585), (126644, 1588),
  (126647, 1582), (126648, 1584), (126649, 1590), (126650, 1592), (126651, 1594), (127275, 99),
  (127276, 114), (127490, 12469), (127504, 25163), (127505, 23383), (127506, 21452),
  (127507, 12487), (127508, 20108), (127509, 22810), (127510, 35299), (127511, 22825),
  (127512, 20132), (127513, 26144), (127514, 28961), (127515, 26009), (127516, 21069),
  (127517, 24460), (127518, 20877), (127519, 26032), (127520, 21021), (127521, 32066),
  (127522, 29983), (127523, 36009), (127524, 22768), (127525, 21561), (127526, 28436),
  (127527, 25237), (127528, 25429), (127529, 19968), (127530, 19977), (127531, 36938),
  (127532, 24038), (127533, 20013), (127534, 21491), (127535, 25351), (127536, 36208),
  (127537, 25171), (127538, 31105), (127539, 31354), (127540, 21512), (127541, 28288),
  (127542, 26377), (127543, 26376), (127544, 30003), (127545, 21106), (127546, 21942),
  (127547, 37197), (127568, 24471), (127569, 21487)]

/-- Characters and the one that stands for each. -/
def mappedSingly : List (Nat × Nat) :=
  mappedSinglyA ++ mappedSinglyB ++ mappedSinglyC ++ mappedSinglyD ++ mappedSinglyE ++
    mappedSinglyF ++ mappedSinglyG ++ mappedSinglyH

/-- A part of the table of `mappedToTexts`. -/
def mappedToTextsA : List (Nat × List Nat) := [
  (168, [32, 776]), (175, [32, 772]), (180, [32, 769]), (184, [32, 807]), (188, [49, 8260, 52]),
  (189, [49, 8260, 50]), (190, [51, 8260, 52]), (304, [105, 775]), (306, [105, 106]),
  (307, [105, 106]), (319, [108, 183]), (320, [108, 183]), (329, [700, 110]), (452, [100, 382]),
  (453, [100, 382]), (454, [100, 382]), (455, [108, 106]), (456, [108, 106]), (457, [108, 106]),
  (458, [110, 106]), (459, [110, 106]), (460, [110, 106]), (497, [100, 122]), (498, [100, 122]),
  (499, [100, 122]), (728, [32, 774]), (729, [32, 775]), (730, [32, 778]), (731, [32, 808]),
  (732, [32, 771]), (733, [32, 779]), (890, [32, 953]), (900, [32, 769]), (901, [32, 776, 769]),
  (1415, [1381, 1410]), (1653, [1575, 1652]), (1654, [1608, 1652]), (1655, [1735, 1652]),
  (1656, [1610, 1652]), (3635, [3661, 3634]), (3763, [3789, 3762]), (3804, [3755, 3737]),
  (3805, [3755, 3745]), (3959, [4018, 3953, 3968]), (3961, [4019, 3953, 3968]), (7834, [97, 702]),
  (8064, [7936, 953]), (8065, [7937, 953]), (8066, [7938, 953]), (8067, [7939, 953]),
  (8068, [7940, 953]), (8069, [7941, 953]), (8070, [7942, 953]), (8071, [7943, 953]),
  (8072, [7936, 953]), (8073, [7937, 953]), (8074, [7938, 953]), (8075, [7939, 953]),
  (8076, [7940, 953]), (8077, [7941, 953]), (8078, [7942, 953]), (8079, [7943, 953]),
  (8080, [7968, 953]), (8081, [7969, 953]), (8082, [7970, 953]), (8083, [7971, 953]),
  (8084, [7972, 953]), (8085, [7973, 953]), (8086, [7974, 953]), (8087, [7975, 953]),
  (8088, [7968, 953]), (8089, [7969, 953]), (8090, [7970, 953]), (8091, [7971, 953]),
  (8092, [7972, 953]), (8093, [7973, 953]), (8094, [7974, 953]), (8095, [7975, 953]),
  (8096, [8032, 953]), (8097, [8033, 953]), (8098, [8034, 953]), (8099, [8035, 953]),
  (8100, [8036, 953]), (8101, [8037, 953]), (8102, [8038, 953]), (8103, [8039, 953]),
  (8104, [8032, 953]), (8105, [8033, 953]), (8106, [8034, 953]), (8107, [8035, 953]),
  (8108, [8036, 953]), (8109, [8037, 953]), (8110, [8038, 953]), (8111, [8039, 953]),
  (8114, [8048, 953]), (8115, [945, 953]), (8116, [940, 953]), (8119, [8118, 953]),
  (8124, [945, 953]), (8125, [32, 787]), (8127, [32, 787]), (8128, [32, 834]),
  (8129, [32, 776, 834]), (8130, [8052, 953]), (8131, [951, 953]), (8132, [942, 953]),
  (8135, [8134, 953]), (8140, [951, 953]), (8141, [32, 787, 768]), (8142, [32, 787, 769]),
  (8143, [32, 787, 834]), (8157, [32, 788, 768]), (8158, [32, 788, 769]), (8159, [32, 788, 834]),
  (8173, [32, 776, 768]), (8174, [32, 776, 769]), (8178, [8060, 953]), (8179, [969, 953]),
  (8180, [974, 953]), (8183, [8182, 953]), (8188, [969, 953]), (8189, [32, 769]),
  (8190, [32, 788]), (8215, [32, 819]), (8243, [8242, 8242]), (8244, [8242, 8242, 8242]),
  (8246, [8245, 8245]), (8247, [8245, 8245, 8245]), (8252, [33, 33]), (8254, [32, 773]),
  (8263, [63, 63]), (8264, [63, 33]), (8265, [33, 63]), (8279, [8242, 8242, 8242, 8242]),
  (8360, [114, 115]), (8448, [97, 47, 99]), (8449, [97, 47, 115]), (8451, [176, 99]),
  (8453, [99, 47, 111]), (8454, [99, 47, 117]), (8457, [176, 102]), (8470, [110, 111]),
  (8480, [115, 109]), (8481, [116, 101, 108]), (8482, [116, 109]), (8507, [102, 97, 120]),
  (8528, [49, 8260, 55]), (8529, [49, 8260, 57]), (8530, [49, 8260, 49, 48]),
  (8531, [49, 8260, 51])]

/-- A part of the table of `mappedToTexts`. -/
def mappedToTextsB : List (Nat × List Nat) := [
  (8532, [50, 8260, 51]), (8533, [49, 8260, 53]), (8534, [50, 8260, 53]), (8535, [51, 8260, 53]),
  (8536, [52, 8260, 53]), (8537, [49, 8260, 54]), (8538, [53, 8260, 54]), (8539, [49, 8260, 56]),
  (8540, [51, 8260, 56]), (8541, [53, 8260, 56]), (8542, [55, 8260, 56]), (8543, [49, 8260]),
  (8545, [105, 105]), (8546, [105, 105, 105]), (8547, [105, 118]), (8549, [118, 105]),
  (8550, [118, 105, 105]), (8551, [118, 105, 105, 105]), (8552, [105, 120]), (8554, [120, 105]),
  (8555, [120, 105, 105]), (8561, [105, 105]), (8562, [105, 105, 105]), (8563, [105, 118]),
  (8565, [118, 105]), (8566, [118, 105, 105]), (8567, [118, 105, 105, 105]), (8568, [105, 120]),
  (8570, [120, 105]), (8571, [120, 105, 105]), (8585, [48, 8260, 51]), (8748, [8747, 8747]),
  (8749, [8747, 8747, 8747]), (8751, [8750, 8750]), (8752, [8750, 8750, 8750]), (9321, [49, 48]),
  (9322, [49, 49]), (9323, [49, 50]), (9324, [49, 51]), (9325, [49, 52]), (9326, [49, 53]),
  (9327, [49, 54]), (9328, [49, 55]), (9329, [49, 56]), (9330, [49, 57]), (9331, [50, 48]),
  (9332, [40, 49, 41]), (9333, [40, 50, 41]), (9334, [40, 51, 41]), (9335, [40, 52, 41]),
  (9336, [40, 53, 41]), (9337, [40, 54, 41]), (9338, [40, 55, 41]), (9339, [40, 56, 41]),
  (9340, [40, 57, 41]), (9341, [40, 49, 48, 41]), (9342, [40, 49, 49, 41]),
  (9343, [40, 49, 50, 41]), (9344, [40, 49, 51, 41]), (9345, [40, 49, 52, 41]),
  (9346, [40, 49, 53, 41]), (9347, [40, 49, 54, 41]), (9348, [40, 49, 55, 41]),
  (9349, [40, 49, 56, 41]), (9350, [40, 49, 57, 41]), (9351, [40, 50, 48, 41]),
  (9372, [40, 97, 41]), (9373, [40, 98, 41]), (9374, [40, 99, 41]), (9375, [40, 100, 41]),
  (9376, [40, 101, 41]), (9377, [40, 102, 41]), (9378, [40, 103, 41]), (9379, [40, 104, 41]),
  (9380, [40, 105, 41]), (9381, [40, 106, 41]), (9382, [40, 107, 41]), (9383, [40, 108, 41]),
  (9384, [40, 109, 41]), (9385, [40, 110, 41]), (9386, [40, 111, 41]), (9387, [40, 112, 41]),
  (9388, [40, 113, 41]), (9389, [40, 114, 41]), (9390, [40, 115, 41]), (9391, [40, 116, 41]),
  (9392, [40, 117, 41]), (9393, [40, 118, 41]), (9394, [40, 119, 41]), (9395, [40, 120, 41]),
  (9396, [40, 121, 41]), (9397, [40, 122, 41]), (10764, [8747, 8747, 8747, 8747]),
  (10868, [58, 58, 61]), (10869, [61, 61]), (10870, [61, 61, 61]), (12443, [32, 12441]),
  (12444, [32, 12442]), (12447, [12424, 12426]), (12543, [12467, 12488]), (12800, [40, 4352, 41]),
  (12801, [40, 4354, 41]), (12802, [40, 4355, 41]), (12803, [40, 4357, 41]),
  (12804, [40, 4358, 41]), (12805, [40, 4359, 41]), (12806, [40, 4361, 41]),
  (12807, [40, 4363, 41]), (12808, [40, 4364, 41]), (12809, [40, 4366, 41]),
  (12810, [40, 4367, 41]), (12811, [40, 4368, 41]), (12812, [40, 4369, 41]),
  (12813, [40, 4370, 41]), (12814, [40, 44032, 41]), (12815, [40, 45208, 41]),
  (12816, [40, 45796, 41]), (12817, [40, 46972, 41]), (12818, [40, 47560, 41]),
  (12819, [40, 48148, 41]), (12820, [40, 49324, 41]), (12821, [40, 50500, 41]),
  (12822, [40, 51088, 41]), (12823, [40, 52264, 41]), (12824, [40, 52852, 41]),
  (12825, [40, 53440, 41]), (12826, [40, 54028, 41]), (12827, [40, 54616, 41]),
  (12828, [40, 51452, 41]), (12829, [40, 50724, 51204, 41]), (12830, [40, 50724, 54980, 41]),
  (12832, [40, 19968, 41]), (12833, [40, 20108, 41]), (12834, [40, 19977, 41]),
  (12835, [40, 22235, 41]), (12836, [40, 20116, 41]), (12837, [40, 20845, 41]),
  (12838, [40, 19971, 41]), (12839, [40, 20843, 41]), (12840, [40, 20061, 41]),
  (12841, [40, 21313, 41]), (12842, [40, 26376, 41]), (12843, [40, 28779, 41]),
  (12844, [40, 27700, 41]), (12845, [40, 26408, 41]), (12846, [40, 37329, 41]),
  (12847, [40, 22303, 41]), (12848, [40, 26085, 41]), (12849, [40, 26666, 41]),
  (12850, [40, 26377, 41])]

/-- A part of the table of `mappedToTexts`. -/
def mappedToTextsC : List (Nat × List Nat) := [
  (12851, [40, 31038, 41]), (12852, [40, 21517, 41]), (12853, [40, 29305, 41]),
  (12854, [40, 36001, 41]), (12855, [40, 31069, 41]), (12856, [40, 21172, 41]),
  (12857, [40, 20195, 41]), (12858, [40, 21628, 41]), (12859, [40, 23398, 41]),
  (12860, [40, 30435, 41]), (12861, [40, 20225, 41]), (12862, [40, 36039, 41]),
  (12863, [40, 21332, 41]), (12864, [40, 31085, 41]), (12865, [40, 20241, 41]),
  (12866, [40, 33258, 41]), (12867, [40, 33267, 41]), (12880, [112, 116, 101]), (12881, [50, 49]),
  (12882, [50, 50]), (12883, [50, 51]), (12884, [50, 52]), (12885, [50, 53]), (12886, [50, 54]),
  (12887, [50, 55]), (12888, [50, 56]), (12889, [50, 57]), (12890, [51, 48]), (12891, [51, 49]),
  (12892, [51, 50]), (12893, [51, 51]), (12894, [51, 52]), (12895, [51, 53]),
  (12924, [52280, 44256]), (12925, [51452, 51032]), (12977, [51, 54]), (12978, [51, 55]),
  (12979, [51, 56]), (12980, [51, 57]), (12981, [52, 48]), (12982, [52, 49]), (12983, [52, 50]),
  (12984, [52, 51]), (12985, [52, 52]), (12986, [52, 53]), (12987, [52, 54]), (12988, [52, 55]),
  (12989, [52, 56]), (12990, [52, 57]), (12991, [53, 48]), (12992, [49, 26376]),
  (12993, [50, 26376]), (12994, [51, 26376]), (12995, [52, 26376]), (12996, [53, 26376]),
  (12997, [54, 26376]), (12998, [55, 26376]), (12999, [56, 26376]), (13000, [57, 26376]),
  (13001, [49, 48, 26376]), (13002, [49, 49, 26376]), (13003, [49, 50, 26376]),
  (13004, [104, 103]), (13005, [101, 114, 103]), (13006, [101, 118]), (13007, [108, 116, 100]),
  (13055, [20196, 21644]), (13056, [12450, 12497, 12540, 12488]),
  (13057, [12450, 12523, 12501, 12449]), (13058, [12450, 12531, 12506, 12450]),
  (13059, [12450, 12540, 12523]), (13060, [12452, 12491, 12531, 12464]),
  (13061, [12452, 12531, 12481]), (13062, [12454, 12457, 12531]),
  (13063, [12456, 12473, 12463, 12540, 12489]), (13064, [12456, 12540, 12459, 12540]),
  (13065, [12458, 12531, 12473]), (13066, [12458, 12540, 12512]), (13067, [12459, 12452, 12522]),
  (13068, [12459, 12521, 12483, 12488]), (13069, [12459, 12525, 12522, 12540]),
  (13070, [12460, 12525, 12531]), (13071, [12460, 12531, 12510]), (13072, [12462, 12460]),
  (13073, [12462, 12491, 12540]), (13074, [12461, 12517, 12522, 12540]),
  (13075, [12462, 12523, 12480, 12540]), (13076, [12461, 12525]),
  (13077, [12461, 12525, 12464, 12521, 12512]),
  (13078, [12461, 12525, 12513, 12540, 12488, 12523]),
  (13079, [12461, 12525, 12527, 12483, 12488]), (13080, [12464, 12521, 12512]),
  (13081, [12464, 12521, 12512, 12488, 12531]), (13082, [12463, 12523, 12476, 12452, 12525]),
  (13083, [12463, 12525, 12540, 12493]), (13084, [12465, 12540, 12473]),
  (13085, [12467, 12523, 12490]), (13086, [12467, 12540, 12509]),
  (13087, [12469, 12452, 12463, 12523]), (13088, [12469, 12531, 12481, 12540, 12512]),
  (13089, [12471, 12522, 12531, 12464]), (13090, [12475, 12531, 12481]),
  (13091, [12475, 12531, 12488]), (13092, [12480, 12540, 12473]), (13093, [12487, 12471]),
  (13094, [12489, 12523]), (13095, [12488, 12531]), (13096, [12490, 12494]),
  (13097, [12494, 12483, 12488]), (13098, [12495, 12452, 12484]),
  (13099, [12497, 12540, 12475, 12531, 12488]), (13100, [12497, 12540, 12484]),
  (13101, [12496, 12540, 12524, 12523]), (13102, [12500, 12450, 12473, 12488, 12523]),
  (13103, [12500, 12463, 12523]), (13104, [12500, 12467]), (13105, [12499, 12523]),
  (13106, [12501, 12449, 12521, 12483, 12489]), (13107, [12501, 12451, 12540, 12488]),
  (13108, [12502, 12483, 12471, 12455, 12523]), (13109, [12501, 12521, 12531]),
  (13110, [12504, 12463, 12479, 12540, 12523]), (13111, [12506, 12477]),
  (13112, [12506, 12491, 12498]), (13113, [12504, 12523, 12484]), (13114, [12506, 12531, 12473]),
  (13115, [12506, 12540, 12472]), (13116, [12505, 12540, 12479]),
  (13117, [12509, 12452, 12531, 12488]), (13118, [12508, 12523, 12488]), (13119, [12507, 12531]),
  (13120, [12509, 12531, 12489]), (13121, [12507, 12540, 12523]), (13122, [12507, 12540, 12531]),
  (13123, [12510, 12452, 12463, 12525]), (13124, [12510, 12452, 12523]),
  (13125, [12510, 12483, 12495]), (13126, [12510, 12523, 12463]),
  (13127, [12510, 12531, 12471, 12519, 12531]), (13128, [12511, 12463, 12525, 12531]),
  (13129, [12511, 12522]), (13130, [12511, 12522, 12496, 12540, 12523]), (13131, [12513, 12460]),
  (13132, [12513, 12460, 12488, 12531]), (13133, [12513, 12540, 12488, 12523]),
  (13134, [12516, 12540, 12489]), (13135, [12516, 12540, 12523]), (13136, [12518, 12450, 12531]),
  (13137, [12522, 12483, 12488, 12523]), (13138, [12522, 12521])]

/-- A part of the table of `mappedToTexts`. -/
def mappedToTextsD : List (Nat × List Nat) := [
  (13139, [12523, 12500, 12540]), (13140, [12523, 12540, 12502, 12523]), (13141, [12524, 12512]),
  (13142, [12524, 12531, 12488, 12466, 12531]), (13143, [12527, 12483, 12488]),
  (13144, [48, 28857]), (13145, [49, 28857]), (13146, [50, 28857]), (13147, [51, 28857]),
  (13148, [52, 28857]), (13149, [53, 28857]), (13150, [54, 28857]), (13151, [55, 28857]),
  (13152, [56, 28857]), (13153, [57, 28857]), (13154, [49, 48, 28857]), (13155, [49, 49, 28857]),
  (13156, [49, 50, 28857]), (13157, [49, 51, 28857]), (13158, [49, 52, 28857]),
  (13159, [49, 53, 28857]), (13160, [49, 54, 28857]), (13161, [49, 55, 28857]),
  (13162, [49, 56, 28857]), (13163, [49, 57, 28857]), (13164, [50, 48, 28857]),
  (13165, [50, 49, 28857]), (13166, [50, 50, 28857]), (13167, [50, 51, 28857]),
  (13168, [50, 52, 28857]), (13169, [104, 112, 97]), (13170, [100, 97]), (13171, [97, 117]),
  (13172, [98, 97, 114]), (13173, [111, 118]), (13174, [112, 99]), (13175, [100, 109]),
  (13176, [100, 109, 50]), (13177, [100, 109, 51]), (13178, [105, 117]), (13179, [24179, 25104]),
  (13180, [26157, 21644]), (13181, [22823, 27491]), (13182, [26126, 27835]),
  (13183, [26666, 24335, 20250, 31038]), (13184, [112, 97]), (13185, [110, 97]),
  (13186, [956, 97]), (13187, [109, 97]), (13188, [107, 97]), (13189, [107, 98]),
  (13190, [109, 98]), (13191, [103, 98]), (13192, [99, 97, 108]), (13193, [107, 99, 97, 108]),
  (13194, [112, 102]), (13195, [110, 102]), (13196, [956, 102]), (13197, [956, 103]),
  (13198, [109, 103]), (13199, [107, 103]), (13200, [104, 122]), (13201, [107, 104, 122]),
  (13202, [109, 104, 122]), (13203, [103, 104, 122]), (13204, [116, 104, 122]),
  (13205, [956, 108]), (13206, [109, 108]), (13207, [100, 108]), (13208, [107, 108]),
  (13209, [102, 109]), (13210, [110, 109]), (13211, [956, 109]), (13212, [109, 109]),
  (13213, [99, 109]), (13214, [107, 109]), (13215, [109, 109, 50]), (13216, [99, 109, 50]),
  (13217, [109, 50]), (13218, [107, 109, 50]), (13219, [109, 109, 51]), (13220, [99, 109, 51]),
  (13221, [109, 51]), (13222, [107, 109, 51]), (13223, [109, 8725, 115]),
  (13224, [109, 8725, 115, 50]), (13225, [112, 97]), (13226, [107, 112, 97]),
  (13227, [109, 112, 97]), (13228, [103, 112, 97]), (13229, [114, 97, 100]),
  (13230, [114, 97, 100, 8725, 115]), (13231, [114, 97, 100, 8725, 115, 50]), (13232, [112, 115]),
  (13233, [110, 115]), (13234, [956, 115]), (13235, [109, 115]), (13236, [112, 118]),
  (13237, [110, 118]), (13238, [956, 118]), (13239, [109, 118]), (13240, [107, 118]),
  (13241, [109, 118]), (13242, [112, 119]), (13243, [110, 119]), (13244, [956, 119]),
  (13245, [109, 119]), (13246, [107, 119]), (13247, [109, 119]), (13248, [107, 969]),
  (13249, [109, 969]), (13251, [98, 113]), (13252, [99, 99]), (13253, [99, 100]),
  (13254, [99, 8725, 107, 103]), (13256, [100, 98]), (13257, [103, 121]), (13258, [104, 97]),
  (13259, [104, 112]), (13260, [105, 110]), (13261, [107, 107]), (13262, [107, 109]),
  (13263, [107, 116]), (13264, [108, 109]), (13265, [108, 110]), (13266, [108, 111, 103]),
  (13267, [108, 120]), (13268, [109, 98]), (13269, [109, 105, 108]), (13270, [109, 111, 108]),
  (13271, [112, 104]), (13273, [112, 112, 109]), (13274, [112, 114]), (13275, [115, 114]),
  (13276, [115, 118]), (13277, [119, 98]), (13278, [118, 8725, 109]), (13279, [97, 8725, 109]),
  (13280, [49, 26085]), (13281, [50, 26085]), (13282, [51, 26085]), (13283, [52, 26085]),
  (13284, [53, 26085]), (13285, [54, 26085]), (13286, [55, 26085]), (13287, [56, 26085]),
  (13288, [57, 26085]), (13289, [49, 48, 26085]), (13290, [49, 49, 26085]),
  (13291, [49, 50, 26085])]

/-- A part of the table of `mappedToTexts`. -/
def mappedToTextsE : List (Nat × List Nat) := [
  (13292, [49, 51, 26085]), (13293, [49, 52, 26085]), (13294, [49, 53, 26085]),
  (13295, [49, 54, 26085]), (13296, [49, 55, 26085]), (13297, [49, 56, 26085]),
  (13298, [49, 57, 26085]), (13299, [50, 48, 26085]), (13300, [50, 49, 26085]),
  (13301, [50, 50, 26085]), (13302, [50, 51, 26085]), (13303, [50, 52, 26085]),
  (13304, [50, 53, 26085]), (13305, [50, 54, 26085]), (13306, [50, 55, 26085]),
  (13307, [50, 56, 26085]), (13308, [50, 57, 26085]), (13309, [51, 48, 26085]),
  (13310, [51, 49, 26085]), (13311, [103, 97, 108]), (64256, [102, 102]), (64257, [102, 105]),
  (64258, [102, 108]), (64259, [102, 102, 105]), (64260, [102, 102, 108]), (64261, [115, 116]),
  (64262, [115, 116]), (64275, [1396, 1398]), (64276, [1396, 1381]), (64277, [1396, 1387]),
  (64278, [1406, 1398]), (64279, [1396, 1389]), (64335, [1488, 1500]), (64477, [1735, 1652]),
  (64490, [1574, 1575]), (64491, [1574, 1575]), (64492, [1574, 1749]), (64493, [1574, 1749]),
  (64494, [1574, 1608]), (64495, [1574, 1608]), (64496, [1574, 1735]), (64497, [1574, 1735]),
  (64498, [1574, 1734]), (64499, [1574, 1734]), (64500, [1574, 1736]), (64501, [1574, 1736]),
  (64502, [1574, 1744]), (64503, [1574, 1744]), (64504, [1574, 1744]), (64505, [1574, 1609]),
  (64506, [1574, 1609]), (64507, [1574, 1609]), (64512, [1574, 1580]), (64513, [1574, 1581]),
  (64514, [1574, 1605]), (64515, [1574, 1609]), (64516, [1574, 1610]), (64517, [1576, 1580]),
  (64518, [1576, 1581]), (64519, [1576, 1582]), (64520, [1576, 1605]), (64521, [1576, 1609]),
  (64522, [1576, 1610]), (64523, [1578, 1580]), (64524, [1578, 1581]), (64525, [1578, 1582]),
  (64526, [1578, 1605]), (64527, [1578, 1609]), (64528, [1578, 1610]), (64529, [1579, 1580]),
  (64530, [1579, 1605]), (64531, [1579, 1609]), (64532, [1579, 1610]), (64533, [1580, 1581]),
  (64534, [1580, 1605]), (64535, [1581, 1580]), (64536, [1581, 1605]), (64537, [1582, 1580]),
  (64538, [1582, 1581]), (64539, [1582, 1605]), (64540, [1587, 1580]), (64541, [1587, 1581]),
  (64542, [1587, 1582]), (64543, [1587, 1605]), (64544, [1589, 1581]), (64545, [1589, 1605]),
  (64546, [1590, 1580]), (64547, [1590, 1581]), (64548, [1590, 1582]), (64549, [1590, 1605]),
  (64550, [1591, 1581]), (64551, [1591, 1605]), (64552, [1592, 1605]), (64553, [1593, 1580]),
  (64554, [1593, 1605]), (64555, [1594, 1580]), (64556, [1594, 1605]), (64557, [1601, 1580]),
  (64558, [1601, 1581]), (64559, [1601, 1582]), (64560, [1601, 1605]), (64561, [1601, 1609]),
  (64562, [1601, 1610]), (64563, [1602, 1581]), (64564, [1602, 1605]), (64565, [1602, 1609]),
  (64566, [1602, 1610]), (64567, [1603, 1575]), (64568, [1603, 1580]), (64569, [1603, 1581]),
  (64570, [1603, 1582]), (64571, [1603, 1604]), (64572, [1603, 1605]), (64573, [1603, 1609]),
  (64574, [1603, 1610]), (64575, [1604, 1580]), (64576, [1604, 1581]), (64577, [1604, 1582]),
  (64578, [1604, 1605]), (64579, [1604, 1609]), (64580, [1604, 1610]), (64581, [1605, 1580]),
  (64582, [1605, 1581]), (64583, [1605, 1582]), (64584, [1605, 1605]), (64585, [1605, 1609]),
  (64586, [1605, 1610]), (64587, [1606, 1580]), (64588, [1606, 1581]), (64589, [1606, 1582]),
  (64590, [1606, 1605]), (64591, [1606, 1609]), (64592, [1606, 1610]), (64593, [1607, 1580]),
  (64594, [1607, 1605]), (64595, [1607, 1609]), (64596, [1607, 1610]), (64597, [1610, 1580]),
  (64598, [1610, 1581]), (64599, [1610, 1582]), (64600, [1610, 1605]), (64601, [1610, 1609]),
  (64602, [1610, 1610]), (64603, [1584, 1648]), (64604, [1585, 1648]), (64605, [1609, 1648]),
  (64606, [32, 1612, 1617]), (64607, [32, 1613, 1617]), (64608, [32, 1614, 1617]),
  (64609, [32, 1615, 1617])]

/-- A part of the table of `mappedToTexts`. -/
def mappedToTextsF : List (Nat × List Nat) := [
  (64610, [32, 1616, 1617]), (64611, [32, 1617, 1648]), (64612, [1574, 1585]),
  (64613, [1574, 1586]), (64614, [1574, 1605]), (64615, [1574, 1606]), (64616, [1574, 1609]),
  (64617, [1574, 1610]), (64618, [1576, 1585]), (64619, [1576, 1586]), (64620, [1576, 1605]),
  (64621, [1576, 1606]), (64622, [1576, 1609]), (64623, [1576, 1610]), (64624, [1578, 1585]),
  (64625, [1578, 1586]), (64626, [1578, 1605]), (64627, [1578, 1606]), (64628, [1578, 1609]),
  (64629, [1578, 1610]), (64630, [1579, 1585]), (64631, [1579, 1586]), (64632, [1579, 1605]),
  (64633, [1579, 1606]), (64634, [1579, 1609]), (64635, [1579, 1610]), (64636, [1601, 1609]),
  (64637, [1601, 1610]), (64638, [1602, 1609]), (64639, [1602, 1610]), (64640, [1603, 1575]),
  (64641, [1603, 1604]), (64642, [1603, 1605]), (64643, [1603, 1609]), (64644, [1603, 1610]),
  (64645, [1604, 1605]), (64646, [1604, 1609]), (64647, [1604, 1610]), (64648, [1605, 1575]),
  (64649, [1605, 1605]), (64650, [1606, 1585]), (64651, [1606, 1586]), (64652, [1606, 1605]),
  (64653, [1606, 1606]), (64654, [1606, 1609]), (64655, [1606, 1610]), (64656, [1609, 1648]),
  (64657, [1610, 1585]), (64658, [1610, 1586]), (64659, [1610, 1605]), (64660, [1610, 1606]),
  (64661, [1610, 1609]), (64662, [1610, 1610]), (64663, [1574, 1580]), (64664, [1574, 1581]),
  (64665, [1574, 1582]), (64666, [1574, 1605]), (64667, [1574, 1607]), (64668, [1576, 1580]),
  (64669, [1576, 1581]), (64670, [1576, 1582]), (64671, [1576, 1605]), (64672, [1576, 1607]),
  (64673, [1578, 1580]), (64674, [1578, 1581]), (64675, [1578, 1582]), (64676, [1578, 1605]),
  (64677, [1578, 1607]), (64678, [1579, 1605]), (64679, [1580, 1581]), (64680, [1580, 1605]),
  (64681, [1581, 1580]), (64682, [1581, 1605]), (64683, [1582, 1580]), (64684, [1582, 1605]),
  (64685, [1587, 1580]), (64686, [1587, 1581]), (64687, [1587, 1582]), (64688, [1587, 1605]),
  (64689, [1589, 1581]), (64690, [1589, 1582]), (64691, [1589, 1605]), (64692, [1590, 1580]),
  (64693, [1590, 1581]), (64694, [1590, 1582]), (64695, [1590, 1605]), (64696, [1591, 1581]),
  (64697, [1592, 1605]), (64698, [1593, 1580]), (64699, [1593, 1605]), (64700, [1594, 1580]),
  (64701, [1594, 1605]), (64702, [1601, 1580]), (64703, [1601, 1581]), (64704, [1601, 1582]),
  (64705, [1601, 1605]), (64706, [1602, 1581]), (64707, [1602, 1605]), (64708, [1603, 1580]),
  (64709, [1603, 1581]), (64710, [1603, 1582]), (64711, [1603, 1604]), (64712, [1603, 1605]),
  (64713, [1604, 1580]), (64714, [1604, 1581]), (64715, [1604, 1582]), (64716, [1604, 1605]),
  (64717, [1604, 1607]), (64718, [1605, 1580]), (64719, [1605, 1581]), (64720, [1605, 1582]),
  (64721, [1605, 1605]), (64722, [1606, 1580]), (64723, [1606, 1581]), (64724, [1606, 1582]),
  (64725, [1606, 1605]), (64726, [1606, 1607]), (64727, [1607, 1580]), (64728, [1607, 1605]),
  (64729, [1607, 1648]), (64730, [1610, 1580]), (64731, [1610, 1581]), (64732, [1610, 1582]),
  (64733, [1610, 1605]), (64734, [1610, 1607]), (64735, [1574, 1605]), (64736, [1574, 1607]),
  (64737, [1576, 1605]), (64738, [1576, 1607]), (64739, [1578, 1605]), (64740, [1578, 1607]),
  (64741, [1579, 1605]), (64742, [1579, 1607]), (64743, [1587, 1605]), (64744, [1587, 1607]),
  (64745, [1588, 1605]), (64746, [1588, 1607]), (64747, [1603, 1604]), (64748, [1603, 1605]),
  (64749, [1604, 1605]), (64750, [1606, 1605]), (64751, [1606, 1607]), (64752, [1610, 1605]),
  (64753, [1610, 1607]), (64754, [1600, 1614, 1617]), (64755, [1600, 1615, 1617]),
  (64756, [1600, 1616, 1617]), (64757, [1591, 1609]), (64758, [1591, 1610]), (64759, [1593, 1609])]

/-- A part of the table of `mappedToTexts`. -/
def mappedToTextsG : List (Nat × List Nat) := [
  (64760, [1593, 1610]), (64761, [1594, 1609]), (64762, [1594, 1610]), (64763, [1587, 1609]),
  (64764, [1587, 1610]), (64765, [1588, 1609]), (64766, [1588, 1610]), (64767, [1581, 1609]),
  (64768, [1581, 1610]), (64769, [1580, 1609]), (64770, [1580, 1610]), (64771, [1582, 1609]),
  (64772, [1582, 1610]), (64773, [1589, 1609]), (64774, [1589, 1610]), (64775, [1590, 1609]),
  (64776, [1590, 1610]), (64777, [1588, 1580]), (64778, [1588, 1581]), (64779, [1588, 1582]),
  (64780, [1588, 1605]), (64781, [1588, 1585]), (64782, [1587, 1585]), (64783, [1589, 1585]),
  (64784, [1590, 1585]), (64785, [1591, 1609]), (64786, [1591, 1610]), (64787, [1593, 1609]),
  (64788, [1593, 1610]), (64789, [1594, 1609]), (64790, [1594, 1610]), (64791, [1587, 1609]),
  (64792, [1587, 1610]), (64793, [1588, 1609]), (64794, [1588, 1610]), (64795, [1581, 1609]),
  (64796, [1581, 1610]), (64797, [1580, 1609]), (64798, [1580, 1610]), (64799, [1582, 1609]),
  (64800, [1582, 1610]), (64801, [1589, 1609]), (64802, [1589, 1610]), (64803, [1590, 1609]),
  (64804, [1590, 1610]), (64805, [1588, 1580]), (64806, [1588, 1581]), (64807, [1588, 1582]),
  (64808, [1588, 1605]), (64809, [1588, 1585]), (64810, [1587, 1585]), (64811, [1589, 1585]),
  (64812, [1590, 1585]), (64813, [1588, 1580]), (64814, [1588, 1581]), (64815, [1588, 1582]),
  (64816, [1588, 1605]), (64817, [1587, 1607]), (64818, [1588, 1607]), (64819, [1591, 1605]),
  (64820, [1587, 1580]), (64821, [1587, 1581]), (64822, [1587, 1582]), (64823, [1588, 1580]),
  (64824, [1588, 1581]), (64825, [1588, 1582]), (64826, [1591, 1605]), (64827, [1592, 1605]),
  (64828, [1575, 1611]), (64829, [1575, 1611]), (64848, [1578, 1580, 1605]),
  (64849, [1578, 1581, 1580]), (64850, [1578, 1581, 1580]), (64851, [1578, 1581, 1605]),
  (64852, [1578, 1582, 1605]), (64853, [1578, 1605, 1580]), (64854, [1578, 1605, 1581]),
  (64855, [1578, 1605, 1582]), (64856, [1580, 1605, 1581]), (64857, [1580, 1605, 1581]),
  (64858, [1581, 1605, 1610]), (64859, [1581, 1605, 1609]), (64860, [1587, 1581, 1580]),
  (64861, [1587, 1580, 1581]), (64862, [1587, 1580, 1609]), (64863, [1587, 1605, 1581]),
  (64864, [1587, 1605, 1581]), (64865, [1587, 1605, 1580]), (64866, [1587, 1605, 1605]),
  (64867, [1587, 1605, 1605]), (64868, [1589, 1581, 1581]), (64869, [1589, 1581, 1581]),
  (64870, [1589, 1605, 1605]), (64871, [1588, 1581, 1605]), (64872, [1588, 1581, 1605]),
  (64873, [1588, 1580, 1610]), (64874, [1588, 1605, 1582]), (64875, [1588, 1605, 1582]),
  (64876, [1588, 1605, 1605]), (64877, [1588, 1605, 1605]), (64878, [1590, 1581, 1609]),
  (64879, [1590, 1582, 1605]), (64880, [1590, 1582, 1605]), (64881, [1591, 1605, 1581]),
  (64882, [1591, 1605, 1581]), (64883, [1591, 1605, 1605]), (64884, [1591, 1605, 1610]),
  (64885, [1593, 1580, 1605]), (64886, [1593, 1605, 1605]), (64887, [1593, 1605, 1605]),
  (64888, [1593, 1605, 1609]), (64889, [1594, 1605, 1605]), (64890, [1594, 1605, 1610]),
  (64891, [1594, 1605, 1609]), (64892, [1601, 1582, 1605]), (64893, [1601, 1582, 1605]),
  (64894, [1602, 1605, 1581]), (64895, [1602, 1605, 1605]), (64896, [1604, 1581, 1605]),
  (64897, [1604, 1581, 1610]), (64898, [1604, 1581, 1609]), (64899, [1604, 1580, 1580]),
  (64900, [1604, 1580, 1580]), (64901, [1604, 1582, 1605]), (64902, [1604, 1582, 1605]),
  (64903, [1604, 1605, 1581]), (64904, [1604, 1605, 1581]), (64905, [1605, 1581, 1580]),
  (64906, [1605, 1581, 1605]), (64907, [1605, 1581, 1610]), (64908, [1605, 1580, 1581]),
  (64909, [1605, 1580, 1605]), (64910, [1605, 1582, 1580]), (64911, [1605, 1582, 1605]),
  (64914, [1605, 1580, 1582]), (64915, [1607, 1605, 1580]), (64916, [1607, 1605, 1605]),
  (64917, [1606, 1581, 1605]), (64918, [1606, 1581, 1609]), (64919, [1606, 1580, 1605]),
  (64920, [1606, 1580, 1605]), (64921, [1606, 1580, 1609]), (64922, [1606, 1605, 1610]),
  (64923, [1606, 1605, 1609]), (64924, [1610, 1605, 1605]), (64925, [1610, 1605, 1605]),
  (64926, [1576, 1582, 1610]), (64927, [1578, 1580, 1610]), (64928, [1578, 1580, 1609]),
  (64929, [1578, 1582, 1610])]

/-- A part of the table of `mappedToTexts`. -/
def mappedToTextsH : List (Nat × List Nat) := [
  (64930, [1578, 1582, 1609]), (64931, [1578, 1605, 1610]), (64932, [1578, 1605, 1609]),
  (64933, [1580, 1605, 1610]), (64934, [1580, 1581, 1609]), (64935, [1580, 1605, 1609]),
  (64936, [1587, 1582, 1609]), (64937, [1589, 1581, 1610]), (64938, [1588, 1581, 1610]),
  (64939, [1590, 1581, 1610]), (64940, [1604, 1580, 1610]), (64941, [1604, 1605, 1610]),
  (64942, [1610, 1581, 1610]), (64943, [1610, 1580, 1610]), (64944, [1610, 1605, 1610]),
  (64945, [1605, 1605, 1610]), (64946, [1602, 1605, 1610]), (64947, [1606, 1581, 1610]),
  (64948, [1602, 1605, 1581]), (64949, [1604, 1581, 1605]), (64950, [1593, 1605, 1610]),
  (64951, [1603, 1605, 1610]), (64952, [1606, 1580, 1581]), (64953, [1605, 1582, 1610]),
  (64954, [1604, 1580, 1605]), (64955, [1603, 1605, 1605]), (64956, [1604, 1580, 1605]),
  (64957, [1606, 1580, 1581]), (64958, [1580, 1581, 1610]), (64959, [1581, 1580, 1610]),
  (64960, [1605, 1580, 1610]), (64961, [1601, 1605, 1610]), (64962, [1576, 1581, 1610]),
  (64963, [1603, 1605, 1605]), (64964, [1593, 1580, 1605]), (64965, [1589, 1605, 1605]),
  (64966, [1587, 1582, 1610]), (64967, [1606, 1580, 1610]), (65008, [1589, 1604, 1746]),
  (65009, [1602, 1604, 1746]), (65010, [1575, 1604, 1604, 1607]),
  (65011, [1575, 1603, 1576, 1585]), (65012, [1605, 1581, 1605, 1583]),
  (65013, [1589, 1604, 1593, 1605]), (65014, [1585, 1587, 1608, 1604]),
  (65015, [1593, 1604, 1610, 1607]), (65016, [1608, 1587, 1604, 1605]),
  (65017, [1589, 1604, 1609]),
  (65018, [1589, 1604, 1609, 32, 1575, 1604, 1604, 1607, 32, 1593, 1604, 1610, 1607, 32, 1608,
    1587, 1604, 1605]),
  (65019, [1580, 1604, 32, 1580, 1604, 1575, 1604, 1607]), (65020, [1585, 1740, 1575, 1604]),
  (65097, [32, 773]), (65098, [32, 773]), (65099, [32, 773]), (65100, [32, 773]),
  (65136, [32, 1611]), (65137, [1600, 1611]), (65138, [32, 1612]), (65140, [32, 1613]),
  (65142, [32, 1614]), (65143, [1600, 1614]), (65144, [32, 1615]), (65145, [1600, 1615]),
  (65146, [32, 1616]), (65147, [1600, 1616]), (65148, [32, 1617]), (65149, [1600, 1617]),
  (65150, [32, 1618]), (65151, [1600, 1618]), (65269, [1604, 1570]), (65270, [1604, 1570]),
  (65271, [1604, 1571]), (65272, [1604, 1571]), (65273, [1604, 1573]), (65274, [1604, 1573]),
  (65275, [1604, 1575]), (65276, [1604, 1575]), (65507, [32, 772]), (127233, [48, 44]),
  (127234, [49, 44]), (127235, [50, 44]), (127236, [51, 44]), (127237, [52, 44]),
  (127238, [53, 44]), (127239, [54, 44]), (127240, [55, 44]), (127241, [56, 44]),
  (127242, [57, 44]), (127248, [40, 97, 41]), (127249, [40, 98, 41]), (127250, [40, 99, 41]),
  (127251, [40, 100, 41]), (127252, [40, 101, 41]), (127253, [40, 102, 41]),
  (127254, [40, 103, 41]), (127255, [40, 104, 41]), (127256, [40, 105, 41]),
  (127257, [40, 106, 41]), (127258, [40, 107, 41]), (127259, [40, 108, 41]),
  (127260, [40, 109, 41]), (127261, [40, 110, 41]), (127262, [40, 111, 41]),
  (127263, [40, 112, 41]), (127264, [40, 113, 41]), (127265, [40, 114, 41]),
  (127266, [40, 115, 41]), (127267, [40, 116, 41]), (127268, [40, 117, 41]),
  (127269, [40, 118, 41]), (127270, [40, 119, 41]), (127271, [40, 120, 41]),
  (127272, [40, 121, 41]), (127273, [40, 122, 41]), (127274, [12308, 115, 12309]),
  (127277, [99, 100]), (127278, [119, 122]), (127306, [104, 118]), (127307, [109, 118]),
  (127308, [115, 100]), (127309, [115, 115]), (127310, [112, 112, 118]), (127311, [119, 99]),
  (127338, [109, 99]), (127339, [109, 100]), (127340, [109, 114]), (127376, [100, 106]),
  (127488, [12411, 12363]), (127489, [12467, 12467]), (127552, [12308, 26412, 12309]),
  (127553, [12308, 19977, 12309]), (127554, [12308, 20108, 12309]),
  (127555, [12308, 23433, 12309]), (127556, [12308, 28857, 12309]),
  (127557, [12308, 25171, 12309]), (127558, [12308, 30423, 12309]),
  (127559, [12308, 21213, 12309]), (127560, [12308, 25943, 12309])]

/-- Characters and the several that stand for each. -/
def mappedToTexts : List (Nat × List Nat) :=
  mappedToTextsA ++ mappedToTextsB ++ mappedToTextsC ++ mappedToTextsD ++ mappedToTextsE ++
    mappedToTextsF ++ mappedToTextsG ++ mappedToTextsH

/-- Characters that are left out. -/
def ignored : List (Nat × Nat) := [
  (173, 173), (847, 847), (4447, 4448), (6068, 6069), (6155, 6159), (8203, 8203), (8288, 8292),
  (8298, 8303), (12644, 12644), (65024, 65039), (65279, 65279), (65440, 65440), (113824, 113827),
  (119155, 119162), (917760, 917999)]

/-- A part of the table of `disallowed`. -/
def disallowedA : List (Nat × Nat) := [
  (128, 159), (888, 889), (896, 899), (907, 907), (909, 909), (930, 930), (1328, 1328),
  (1367, 1368), (1419, 1420), (1424, 1424), (1480, 1487), (1515, 1518), (1525, 1541), (1564, 1564),
  (1757, 1757), (1806, 1807), (1867, 1868), (1970, 1983), (2043, 2044), (2094, 2095), (2111, 2111),
  (2140, 2141), (2143, 2143), (2155, 2159), (2192, 2198), (2274, 2274), (2436, 2436), (2445, 2446),
  (2449, 2450), (2473, 2473), (2481, 2481), (2483, 2485), (2490, 2491), (2501, 2502), (2505, 2506),
  (2511, 2518), (2520, 2523), (2526, 2526), (2532, 2533), (2559, 2560), (2564, 2564), (2571, 2574),
  (2577, 2578), (2601, 2601), (2609, 2609), (2612, 2612), (2615, 2615), (2618, 2619), (2621, 2621),
  (2627, 2630), (2633, 2634), (2638, 2640), (2642, 2648), (2653, 2653), (2655, 2661), (2679, 2688),
  (2692, 2692), (2702, 2702), (2706, 2706), (2729, 2729), (2737, 2737), (2740, 2740), (2746, 2747),
  (2758, 2758), (2762, 2762), (2766, 2767), (2769, 2783), (2788, 2789), (2802, 2808), (2816, 2816),
  (2820, 2820), (2829, 2830), (2833, 2834), (2857, 2857), (2865, 2865), (2868, 2868), (2874, 2875),
  (2885, 2886), (2889, 2890), (2894, 2900), (2904, 2907), (2910, 2910), (2916, 2917), (2936, 2945),
  (2948, 2948), (2955, 2957), (2961, 2961), (2966, 2968), (2971, 2971), (2973, 2973), (2976, 2978),
  (2981, 2983), (2987, 2989), (3002, 3005), (3011, 3013), (3017, 3017), (3022, 3023), (3025, 3030),
  (3032, 3045), (3067, 3071), (3085, 3085), (3089, 3089), (3113, 3113), (3130, 3131), (3141, 3141),
  (3145, 3145), (3150, 3156), (3159, 3159), (3163, 3163), (3166, 3167), (3172, 3173), (3184, 3190),
  (3213, 3213), (3217, 3217), (3241, 3241), (3252, 3252), (3258, 3259), (3269, 3269), (3273, 3273),
  (3278, 3284), (3287, 3291), (3295, 3295), (3300, 3301), (3312, 3312), (3316, 3327), (3341, 3341),
  (3345, 3345), (3397, 3397), (3401, 3401), (3408, 3411), (3428, 3429), (3456, 3456), (3460, 3460),
  (3479, 3481), (3506, 3506), (3516, 3516), (3518, 3519), (3527, 3529), (3531, 3534), (3541, 3541),
  (3543, 3543), (3552, 3557), (3568, 3569), (3573, 3584), (3643, 3646), (3676, 3712), (3715, 3715),
  (3717, 3717), (3723, 3723), (3748, 3748)]

/-- A part of the table of `disallowed`. -/
def disallowedB : List (Nat × Nat) := [
  (3750, 3750), (3774, 3775), (3781, 3781), (3783, 3783), (3791, 3791), (3802, 3803), (3808, 3839),
  (3912, 3912), (3949, 3952), (3992, 3992), (4029, 4029), (4045, 4045), (4059, 4095), (4294, 4294),
  (4296, 4300), (4302, 4303), (4681, 4681), (4686, 4687), (4695, 4695), (4697, 4697), (4702, 4703),
  (4745, 4745), (4750, 4751), (4785, 4785), (4790, 4791), (4799, 4799), (4801, 4801), (4806, 4807),
  (4823, 4823), (4881, 4881), (4886, 4887), (4955, 4956), (4989, 4991), (5018, 5023), (5110, 5111),
  (5118, 5119), (5760, 5760), (5789, 5791), (5881, 5887), (5910, 5918), (5943, 5951), (5972, 5983),
  (5997, 5997), (6001, 6001), (6004, 6015), (6110, 6111), (6122, 6127), (6138, 6143), (6170, 6175),
  (6265, 6271), (6315, 6319), (6390, 6399), (6431, 6431), (6444, 6447), (6460, 6463), (6465, 6467),
  (6510, 6511), (6517, 6527), (6572, 6575), (6602, 6607), (6619, 6621), (6684, 6685), (6751, 6751),
  (6781, 6782), (6794, 6799), (6810, 6815), (6830, 6831), (6878, 6879), (6892, 6911), (6989, 6989),
  (7156, 7163), (7224, 7226), (7242, 7244), (7307, 7311), (7355, 7356), (7368, 7375), (7419, 7423),
  (7958, 7959), (7966, 7967), (8006, 8007), (8014, 8015), (8024, 8024), (8026, 8026), (8028, 8028),
  (8030, 8030), (8062, 8063), (8117, 8117), (8133, 8133), (8148, 8149), (8156, 8156), (8176, 8177),
  (8181, 8181), (8191, 8191), (8206, 8207), (8228, 8230), (8232, 8238), (8293, 8297), (8306, 8307),
  (8335, 8335), (8349, 8351), (8386, 8399), (8433, 8447), (8588, 8591), (9258, 9279), (9291, 9311),
  (9352, 9371), (11124, 11125), (11508, 11512), (11558, 11558), (11560, 11564), (11566, 11567),
  (11624, 11630), (11633, 11646), (11671, 11679), (11687, 11687), (11695, 11695), (11703, 11703),
  (11711, 11711), (11719, 11719), (11727, 11727), (11735, 11735), (11743, 11743), (11870, 11903),
  (11930, 11930), (12020, 12031), (12246, 12287), (12352, 12352), (12439, 12440), (12544, 12548),
  (12592, 12592), (12687, 12687), (12774, 12783), (12831, 12831), (13250, 13250), (13255, 13255),
  (13272, 13272), (42125, 42127), (42183, 42191), (42540, 42559), (42744, 42751), (42973, 42992),
  (43053, 43055), (43066, 43071), (43128, 43135), (43206, 43213), (43226, 43231), (43348, 43358),
  (43389, 43391), (43470, 43470), (43482, 43485)]

/-- A part of the table of `disallowed`. -/
def disallowedC : List (Nat × Nat) := [
  (43519, 43519), (43575, 43583), (43598, 43599), (43610, 43611), (43715, 43738), (43767, 43776),
  (43783, 43784), (43791, 43792), (43799, 43807), (43815, 43815), (43823, 43823), (43884, 43887),
  (44014, 44015), (44026, 44031), (55204, 55215), (55239, 55242), (55292, 55295), (57344, 63743),
  (64110, 64111), (64218, 64255), (64263, 64274), (64280, 64284), (64311, 64311), (64317, 64317),
  (64319, 64319), (64322, 64322), (64325, 64325), (64976, 65007), (65042, 65042), (65049, 65055),
  (65072, 65072), (65106, 65107), (65127, 65127), (65132, 65135), (65141, 65141), (65277, 65278),
  (65280, 65280), (65471, 65473), (65480, 65481), (65488, 65489), (65496, 65497), (65501, 65503),
  (65511, 65511), (65519, 65535), (65548, 65548), (65575, 65575), (65595, 65595), (65598, 65598),
  (65614, 65615), (65630, 65663), (65787, 65791), (65795, 65798), (65844, 65846), (65935, 65935),
  (65949, 65951), (65953, 65999), (66046, 66175), (66205, 66207), (66257, 66271), (66300, 66303),
  (66340, 66348), (66379, 66383), (66427, 66431), (66462, 66462), (66500, 66503), (66518, 66559),
  (66718, 66719), (66730, 66735), (66772, 66775), (66812, 66815), (66856, 66863), (66916, 66926),
  (66939, 66939), (66955, 66955), (66963, 66963), (66966, 66966), (66978, 66978), (66994, 66994),
  (67002, 67002), (67005, 67007), (67060, 67071), (67383, 67391), (67414, 67423), (67432, 67455),
  (67462, 67462), (67505, 67505), (67515, 67583), (67590, 67591), (67593, 67593), (67638, 67638),
  (67641, 67643), (67645, 67646), (67670, 67670), (67743, 67750), (67760, 67807), (67827, 67827),
  (67830, 67834), (67868, 67870), (67898, 67902), (67930, 67967), (68024, 68027), (68048, 68049),
  (68100, 68100), (68103, 68107), (68116, 68116), (68120, 68120), (68150, 68151), (68155, 68158),
  (68169, 68175), (68185, 68191), (68256, 68287), (68327, 68330), (68343, 68351), (68406, 68408),
  (68438, 68439), (68467, 68471), (68498, 68504), (68509, 68520), (68528, 68607), (68681, 68735),
  (68787, 68799), (68851, 68857), (68904, 68911), (68922, 68927), (68966, 68968), (68998, 69005),
  (69008, 69215), (69247, 69247), (69290, 69290), (69294, 69295), (69298, 69313), (69320, 69327),
  (69337, 69369), (69416, 69423), (69466, 69487), (69514, 69551), (69580, 69599), (69623, 69631),
  (69710, 69713), (69750, 69758), (69821, 69821), (69827, 69839), (69865, 69871), (69882, 69887),
  (69941, 69941), (69960, 69967), (70007, 70015), (70112, 70112), (70133, 70143), (70162, 70162)]

/-- A part of the table of `disallowed`. -/
def disallowedD : List (Nat × Nat) := [
  (70210, 70271), (70279, 70279), (70281, 70281), (70286, 70286), (70302, 70302), (70314, 70319),
  (70379, 70383), (70394, 70399), (70404, 70404), (70413, 70414), (70417, 70418), (70441, 70441),
  (70449, 70449), (70452, 70452), (70458, 70458), (70469, 70470), (70473, 70474), (70478, 70479),
  (70481, 70486), (70488, 70492), (70500, 70501), (70509, 70511), (70517, 70527), (70538, 70538),
  (70540, 70541), (70543, 70543), (70582, 70582), (70593, 70593), (70595, 70596), (70598, 70598),
  (70603, 70603), (70614, 70614), (70617, 70624), (70627, 70655), (70748, 70748), (70754, 70783),
  (70856, 70863), (70874, 71039), (71094, 71095), (71134, 71167), (71237, 71247), (71258, 71263),
  (71277, 71295), (71354, 71359), (71370, 71375), (71396, 71423), (71451, 71452), (71468, 71471),
  (71495, 71679), (71740, 71839), (71923, 71934), (71943, 71944), (71946, 71947), (71956, 71956),
  (71959, 71959), (71990, 71990), (71993, 71994), (72007, 72015), (72026, 72095), (72104, 72105),
  (72152, 72153), (72165, 72191), (72264, 72271), (72355, 72367), (72441, 72447), (72458, 72543),
  (72552, 72639), (72674, 72687), (72698, 72703), (72713, 72713), (72759, 72759), (72774, 72783),
  (72813, 72815), (72848, 72849), (72872, 72872), (72887, 72959), (72967, 72967), (72970, 72970),
  (73015, 73017), (73019, 73019), (73022, 73022), (73032, 73039), (73050, 73055), (73062, 73062),
  (73065, 73065), (73103, 73103), (73106, 73106), (73113, 73119), (73130, 73135), (73180, 73183),
  (73194, 73439), (73465, 73471), (73489, 73489), (73531, 73533), (73563, 73647), (73649, 73663),
  (73714, 73726), (74650, 74751), (74863, 74863), (74869, 74879), (75076, 77711), (77811, 77823),
  (78896, 78911), (78934, 78943), (82939, 82943), (83527, 90367), (90426, 92159), (92729, 92735),
  (92767, 92767), (92778, 92781), (92863, 92863), (92874, 92879), (92910, 92911), (92918, 92927),
  (92998, 93007), (93018, 93018), (93026, 93026), (93048, 93052), (93072, 93503), (93562, 93759),
  (93851, 93855), (93881, 93882), (93908, 93951), (94027, 94030), (94088, 94094), (94112, 94175),
  (94181, 94191), (94199, 94207), (101590, 101630), (101663, 101759), (101875, 110575),
  (110580, 110580), (110588, 110588), (110591, 110591), (110883, 110897), (110899, 110927),
  (110931, 110932), (110934, 110947), (110952, 110959), (111356, 113663), (113771, 113775),
  (113789, 113791), (113801, 113807), (113818, 113819), (113828, 117759), (118013, 118015),
  (118452, 118457), (118481, 118495), (118513, 118527), (118574, 118575)]

/-- A part of the table of `disallowed`. -/
def disallowedE : List (Nat × Nat) := [
  (118599, 118607), (118724, 118783), (119030, 119039), (119079, 119080), (119275, 119295),
  (119366, 119487), (119508, 119519), (119540, 119551), (119639, 119647), (119673, 119807),
  (119893, 119893), (119965, 119965), (119968, 119969), (119971, 119972), (119975, 119976),
  (119981, 119981), (119994, 119994), (119996, 119996), (120004, 120004), (120070, 120070),
  (120075, 120076), (120085, 120085), (120093, 120093), (120122, 120122), (120127, 120127),
  (120133, 120133), (120135, 120137), (120145, 120145), (120486, 120487), (120780, 120781),
  (121484, 121498), (121504, 121504), (121520, 122623), (122655, 122660), (122667, 122879),
  (122887, 122887), (122905, 122906), (122914, 122914), (122917, 122917), (122923, 122927),
  (122990, 123022), (123024, 123135), (123181, 123183), (123198, 123199), (123210, 123213),
  (123216, 123535), (123567, 123583), (123642, 123646), (123648, 124111), (124154, 124367),
  (124411, 124414), (124416, 124607), (124639, 124639), (124662, 124669), (124672, 124895),
  (124903, 124903), (124908, 124908), (124911, 124911), (124927, 124927), (125125, 125126),
  (125143, 125183), (125260, 125263), (125274, 125277), (125280, 126064), (126133, 126208),
  (126270, 126463), (126468, 126468), (126496, 126496), (126499, 126499), (126501, 126502),
  (126504, 126504), (126515, 126515), (126520, 126520), (126522, 126522), (126524, 126529),
  (126531, 126534), (126536, 126536), (126538, 126538), (126540, 126540), (126544, 126544),
  (126547, 126547), (126549, 126550), (126552, 126552), (126554, 126554), (126556, 126556),
  (126558, 126558), (126560, 126560), (126563, 126563), (126565, 126566), (126571, 126571),
  (126579, 126579), (126584, 126584), (126589, 126589), (126591, 126591), (126602, 126602),
  (126620, 126624), (126628, 126628), (126634, 126634), (126652, 126703), (126706, 126975),
  (127020, 127023), (127124, 127135), (127151, 127152), (127168, 127168), (127184, 127184),
  (127222, 127232), (127406, 127461), (127491, 127503), (127548, 127551), (127561, 127567),
  (127570, 127583), (127590, 127743), (128729, 128731), (128749, 128751), (128765, 128767),
  (128986, 128991), (129004, 129007), (129009, 129023), (129036, 129039), (129096, 129103),
  (129114, 129119), (129160, 129167), (129198, 129199), (129212, 129215), (129218, 129231),
  (129241, 129279), (129624, 129631), (129646, 129647), (129661, 129663), (129675, 129677),
  (129735, 129735), (129737, 129740), (129757, 129758), (129771, 129774), (129785, 129791),
  (129939, 129939), (130043, 131071), (173792, 173823), (178206, 178207), (183982, 183983),
  (191457, 191471), (192094, 194559), (195102, 196607), (201547, 201551), (210042, 917759),
  (918000, 1114111)]

/-- Characters that no host name may hold. -/
def disallowed : List (Nat × Nat) :=
  disallowedA ++ disallowedB ++ disallowedC ++ disallowedD ++ disallowedE

end Workflows.Host
