/-!
# Ranges of digits

Alternating range bounds of the characters with a digit value, and of those among them that form
a decimal system. Every range of the second list is a run of whole systems of ten digits.
-/

namespace ContentIndex.Text

set_option autoImplicit false

def digitBounds : List Nat :=
  [48, 58, 178, 180, 185, 186, 1632, 1642, 1776, 1786, 1984, 1994, 2406, 2416, 2534, 2544, 2662,
    2672, 2790, 2800, 2918, 2928, 3046, 3056, 3174, 3184, 3302, 3312, 3430, 3440, 3558, 3568,
    3664, 3674, 3792, 3802, 3872, 3882, 4160, 4170, 4240, 4250, 4969, 4978, 6112, 6122, 6160,
    6170, 6470, 6480, 6608, 6619, 6784, 6794, 6800, 6810, 6992, 7002, 7088, 7098, 7232, 7242,
    7248, 7258, 8304, 8305, 8308, 8314, 8320, 8330, 9312, 9321, 9332, 9341, 9352, 9361, 9450,
    9451, 9461, 9470, 9471, 9472, 10102, 10111, 10112, 10121, 10122, 10131, 42528, 42538, 43216,
    43226, 43264, 43274, 43472, 43482, 43504, 43514, 43600, 43610, 44016, 44026, 65296, 65306,
    66720, 66730, 68160, 68164, 68912, 68922, 69216, 69225, 69714, 69723, 69734, 69744, 69872,
    69882, 69942, 69952, 70096, 70106, 70384, 70394, 70736, 70746, 70864, 70874, 71248, 71258,
    71360, 71370, 71472, 71482, 71904, 71914, 72016, 72026, 72784, 72794, 73040, 73050, 73120,
    73130, 92768, 92778, 92864, 92874, 93008, 93018, 120782, 120832, 123200, 123210, 123632,
    123642, 125264, 125274, 127232, 127243, 130032, 130042]

def decimalBounds : List Nat :=
  [48, 58, 1632, 1642, 1776, 1786, 1984, 1994, 2406, 2416, 2534, 2544, 2662, 2672, 2790, 2800,
    2918, 2928, 3046, 3056, 3174, 3184, 3302, 3312, 3430, 3440, 3558, 3568, 3664, 3674, 3792,
    3802, 3872, 3882, 4160, 4170, 4240, 4250, 6112, 6122, 6160, 6170, 6470, 6480, 6608, 6618,
    6784, 6794, 6800, 6810, 6992, 7002, 7088, 7098, 7232, 7242, 7248, 7258, 42528, 42538, 43216,
    43226, 43264, 43274, 43472, 43482, 43504, 43514, 43600, 43610, 44016, 44026, 65296, 65306,
    66720, 66730, 68912, 68922, 69734, 69744, 69872, 69882, 69942, 69952, 70096, 70106, 70384,
    70394, 70736, 70746, 70864, 70874, 71248, 71258, 71360, 71370, 71472, 71482, 71904, 71914,
    72016, 72026, 72784, 72794, 73040, 73050, 73120, 73130, 92768, 92778, 92864, 92874, 93008,
    93018, 120782, 120832, 123200, 123210, 123632, 123642, 125264, 125274, 130032, 130042]

end ContentIndex.Text
