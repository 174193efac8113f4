/-
# Compatibility decompositions: ideographs

The compatibility decompositions of Unicode 14.0 of ideographs and of what is written among them.
-/

import Reckoner.Text.Normal.Mapping

namespace Reckoner
namespace Text
namespace Decompositions

/-- Decompositions from 2F76 to 3216. -/
def from2F76 : List Mapping := [
  ⟨0x2F76, 0x2F76, [0x7C73]⟩, ⟨0x2F77, 0x2F77, [0x7CF8]⟩, ⟨0x2F78, 0x2F78, [0x7F36]⟩,
  ⟨0x2F79, 0x2F79, [0x7F51]⟩, ⟨0x2F7A, 0x2F7A, [0x7F8A]⟩, ⟨0x2F7B, 0x2F7B, [0x7FBD]⟩,
  ⟨0x2F7C, 0x2F7C, [0x8001]⟩, ⟨0x2F7D, 0x2F7D, [0x800C]⟩, ⟨0x2F7E, 0x2F7E, [0x8012]⟩,
  ⟨0x2F7F, 0x2F7F, [0x8033]⟩, ⟨0x2F80, 0x2F80, [0x807F]⟩, ⟨0x2F81, 0x2F81, [0x8089]⟩,
  ⟨0x2F82, 0x2F82, [0x81E3]⟩, ⟨0x2F83, 0x2F83, [0x81EA]⟩, ⟨0x2F84, 0x2F84, [0x81F3]⟩,
  ⟨0x2F85, 0x2F85, [0x81FC]⟩, ⟨0x2F86, 0x2F86, [0x820C]⟩, ⟨0x2F87, 0x2F87, [0x821B]⟩,
  ⟨0x2F88, 0x2F88, [0x821F]⟩, ⟨0x2F89, 0x2F89, [0x826E]⟩, ⟨0x2F8A, 0x2F8A, [0x8272]⟩,
  ⟨0x2F8B, 0x2F8B, [0x8278]⟩, ⟨0x2F8C, 0x2F8C, [0x864D]⟩, ⟨0x2F8D, 0x2F8D, [0x866B]⟩,
  ⟨0x2F8E, 0x2F8E, [0x8840]⟩, ⟨0x2F8F, 0x2F8F, [0x884C]⟩, ⟨0x2F90, 0x2F90, [0x8863]⟩,
  ⟨0x2F91, 0x2F91, [0x897E]⟩, ⟨0x2F92, 0x2F92, [0x898B]⟩, ⟨0x2F93, 0x2F93, [0x89D2]⟩,
  ⟨0x2F94, 0x2F94, [0x8A00]⟩, ⟨0x2F95, 0x2F95, [0x8C37]⟩, ⟨0x2F96, 0x2F96, [0x8C46]⟩,
  ⟨0x2F97, 0x2F97, [0x8C55]⟩, ⟨0x2F98, 0x2F98, [0x8C78]⟩, ⟨0x2F99, 0x2F99, [0x8C9D]⟩,
  ⟨0x2F9A, 0x2F9A, [0x8D64]⟩, ⟨0x2F9B, 0x2F9B, [0x8D70]⟩, ⟨0x2F9C, 0x2F9C, [0x8DB3]⟩,
  ⟨0x2F9D, 0x2F9D, [0x8EAB]⟩, ⟨0x2F9E, 0x2F9E, [0x8ECA]⟩, ⟨0x2F9F, 0x2F9F, [0x8F9B]⟩,
  ⟨0x2FA0, 0x2FA0, [0x8FB0]⟩, ⟨0x2FA1, 0x2FA1, [0x8FB5]⟩, ⟨0x2FA2, 0x2FA2, [0x9091]⟩,
  ⟨0x2FA3, 0x2FA3, [0x9149]⟩, ⟨0x2FA4, 0x2FA4, [0x91C6]⟩, ⟨0x2FA5, 0x2FA5, [0x91CC]⟩,
  ⟨0x2FA6, 0x2FA6, [0x91D1]⟩, ⟨0x2FA7, 0x2FA7, [0x9577]⟩, ⟨0x2FA8, 0x2FA8, [0x9580]⟩,
  ⟨0x2FA9, 0x2FA9, [0x961C]⟩, ⟨0x2FAA, 0x2FAA, [0x96B6]⟩, ⟨0x2FAB, 0x2FAB, [0x96B9]⟩,
  ⟨0x2FAC, 0x2FAC, [0x96E8]⟩, ⟨0x2FAD, 0x2FAD, [0x9751]⟩, ⟨0x2FAE, 0x2FAE, [0x975E]⟩,
  ⟨0x2FAF, 0x2FAF, [0x9762]⟩, ⟨0x2FB0, 0x2FB0, [0x9769]⟩, ⟨0x2FB1, 0x2FB1, [0x97CB]⟩,
  ⟨0x2FB2, 0x2FB2, [0x97ED]⟩, ⟨0x2FB3, 0x2FB3, [0x97F3]⟩, ⟨0x2FB4, 0x2FB4, [0x9801]⟩,
  ⟨0x2FB5, 0x2FB5, [0x98A8]⟩, ⟨0x2FB6, 0x2FB6, [0x98DB]⟩, ⟨0x2FB7, 0x2FB7, [0x98DF]⟩,
  ⟨0x2FB8, 0x2FB8, [0x9996]⟩, ⟨0x2FB9, 0x2FB9, [0x9999]⟩, ⟨0x2FBA, 0x2FBA, [0x99AC]⟩,
  ⟨0x2FBB, 0x2FBB, [0x9AA8]⟩, ⟨0x2FBC, 0x2FBC, [0x9AD8]⟩, ⟨0x2FBD, 0x2FBD, [0x9ADF]⟩,
  ⟨0x2FBE, 0x2FBE, [0x9B25]⟩, ⟨0x2FBF, 0x2FBF, [0x9B2F]⟩, ⟨0x2FC0, 0x2FC0, [0x9B32]⟩,
  ⟨0x2FC1, 0x2FC1, [0x9B3C]⟩, ⟨0x2FC2, 0x2FC2, [0x9B5A]⟩, ⟨0x2FC3, 0x2FC3, [0x9CE5]⟩,
  ⟨0x2FC4, 0x2FC4, [0x9E75]⟩, ⟨0x2FC5, 0x2FC5, [0x9E7F]⟩, ⟨0x2FC6, 0x2FC6, [0x9EA5]⟩,
  ⟨0x2FC7, 0x2FC7, [0x9EBB]⟩, ⟨0x2FC8, 0x2FC8, [0x9EC3]⟩, ⟨0x2FC9, 0x2FC9, [0x9ECD]⟩,
  ⟨0x2FCA, 0x2FCA, [0x9ED1]⟩, ⟨0x2FCB, 0x2FCB, [0x9EF9]⟩, ⟨0x2FCC, 0x2FCC, [0x9EFD]⟩,
  ⟨0x2FCD, 0x2FCD, [0x9F0E]⟩, ⟨0x2FCE, 0x2FCE, [0x9F13]⟩, ⟨0x2FCF, 0x2FCF, [0x9F20]⟩,
  ⟨0x2FD0, 0x2FD0, [0x9F3B]⟩, ⟨0x2FD1, 0x2FD1, [0x9F4A]⟩, ⟨0x2FD2, 0x2FD2, [0x9F52]⟩,
  ⟨0x2FD3, 0x2FD3, [0x9F8D]⟩, ⟨0x2FD4, 0x2FD4, [0x9F9C]⟩, ⟨0x2FD5, 0x2FD5, [0x9FA0]⟩,
  ⟨0x3000, 0x3000, [0x0020]⟩, ⟨0x3036, 0x3036, [0x3012]⟩, ⟨0x3038, 0x3038, [0x5341]⟩,
  ⟨0x3039, 0x303A, [0x5344]⟩, ⟨0x304C, 0x304C, [0x304B, 0x3099]⟩,
  ⟨0x304E, 0x304E, [0x304D, 0x3099]⟩, ⟨0x3050, 0x3050, [0x304F, 0x3099]⟩,
  ⟨0x3052, 0x3052, [0x3051, 0x3099]⟩, ⟨0x3054, 0x3054, [0x3053, 0x3099]⟩,
  ⟨0x3056, 0x3056, [0x3055, 0x3099]⟩, ⟨0x3058, 0x3058, [0x3057, 0x3099]⟩,
  ⟨0x305A, 0x305A, [0x3059, 0x3099]⟩, ⟨0x305C, 0x305C, [0x305B, 0x3099]⟩,
  ⟨0x305E, 0x305E, [0x305D, 0x3099]⟩, ⟨0x3060, 0x3060, [0x305F, 0x3099]⟩,
  ⟨0x3062, 0x3062, [0x3061, 0x3099]⟩, ⟨0x3065, 0x3065, [0x3064, 0x3099]⟩,
  ⟨0x3067, 0x3067, [0x3066, 0x3099]⟩, ⟨0x3069, 0x3069, [0x3068, 0x3099]⟩,
  ⟨0x3070, 0x3070, [0x306F, 0x3099]⟩, ⟨0x3071, 0x3071, [0x306F, 0x309A]⟩,
  ⟨0x3073, 0x3073, [0x3072, 0x3099]⟩, ⟨0x3074, 0x3074, [0x3072, 0x309A]⟩,
  ⟨0x3076, 0x3076, [0x3075, 0x3099]⟩, ⟨0x3077, 0x3077, [0x3075, 0x309A]⟩,
  ⟨0x3079, 0x3079, [0x3078, 0x3099]⟩, ⟨0x307A, 0x307A, [0x3078, 0x309A]⟩,
  ⟨0x307C, 0x307C, [0x307B, 0x3099]⟩, ⟨0x307D, 0x307D, [0x307B, 0x309A]⟩,
  ⟨0x3094, 0x3094, [0x3046, 0x3099]⟩, ⟨0x309B, 0x309B, [0x0020, 0x3099]⟩,
  ⟨0x309C, 0x309C, [0x0020, 0x309A]⟩, ⟨0x309E, 0x309E, [0x309D, 0x3099]⟩,
  ⟨0x309F, 0x309F, [0x3088, 0x308A]⟩, ⟨0x30AC, 0x30AC, [0x30AB, 0x3099]⟩,
  ⟨0x30AE, 0x30AE, [0x30AD, 0x3099]⟩, ⟨0x30B0, 0x30B0, [0x30AF, 0x3099]⟩,
  ⟨0x30B2, 0x30B2, [0x30B1, 0x3099]⟩, ⟨0x30B4, 0x30B4, [0x30B3, 0x3099]⟩,
  ⟨0x30B6, 0x30B6, [0x30B5, 0x3099]⟩, ⟨0x30B8, 0x30B8, [0x30B7, 0x3099]⟩,
  ⟨0x30BA, 0x30BA, [0x30B9, 0x3099]⟩, ⟨0x30BC, 0x30BC, [0x30BB, 0x3099]⟩,
  ⟨0x30BE, 0x30BE, [0x30BD, 0x3099]⟩, ⟨0x30C0, 0x30C0, [0x30BF, 0x3099]⟩,
  ⟨0x30C2, 0x30C2, [0x30C1, 0x3099]⟩, ⟨0x30C5, 0x30C5, [0x30C4, 0x3099]⟩,
  ⟨0x30C7, 0x30C7, [0x30C6, 0x3099]⟩, ⟨0x30C9, 0x30C9, [0x30C8, 0x3099]⟩,
  ⟨0x30D0, 0x30D0, [0x30CF, 0x3099]⟩, ⟨0x30D1, 0x30D1, [0x30CF, 0x309A]⟩,
  ⟨0x30D3, 0x30D3, [0x30D2, 0x3099]⟩, ⟨0x30D4, 0x30D4, [0x30D2, 0x309A]⟩,
  ⟨0x30D6, 0x30D6, [0x30D5, 0x3099]⟩, ⟨0x30D7, 0x30D7, [0x30D5, 0x309A]⟩,
  ⟨0x30D9, 0x30D9, [0x30D8, 0x3099]⟩, ⟨0x30DA, 0x30DA, [0x30D8, 0x309A]⟩,
  ⟨0x30DC, 0x30DC, [0x30DB, 0x3099]⟩, ⟨0x30DD, 0x30DD, [0x30DB, 0x309A]⟩,
  ⟨0x30F4, 0x30F4, [0x30A6, 0x3099]⟩, ⟨0x30F7, 0x30F7, [0x30EF, 0x3099]⟩,
  ⟨0x30F8, 0x30F8, [0x30F0, 0x3099]⟩, ⟨0x30F9, 0x30F9, [0x30F1, 0x3099]⟩,
  ⟨0x30FA, 0x30FA, [0x30F2, 0x3099]⟩, ⟨0x30FE, 0x30FE, [0x30FD, 0x3099]⟩,
  ⟨0x30FF, 0x30FF, [0x30B3, 0x30C8]⟩, ⟨0x3131, 0x3132, [0x1100]⟩, ⟨0x3133, 0x3133, [0x11AA]⟩,
  ⟨0x3134, 0x3134, [0x1102]⟩, ⟨0x3135, 0x3136, [0x11AC]⟩, ⟨0x3137, 0x3139, [0x1103]⟩,
  ⟨0x313A, 0x313F, [0x11B0]⟩, ⟨0x3140, 0x3140, [0x111A]⟩, ⟨0x3141, 0x3143, [0x1106]⟩,
  ⟨0x3144, 0x3144, [0x1121]⟩, ⟨0x3145, 0x314E, [0x1109]⟩, ⟨0x314F, 0x3163, [0x1161]⟩,
  ⟨0x3164, 0x3164, [0x1160]⟩, ⟨0x3165, 0x3166, [0x1114]⟩, ⟨0x3167, 0x3168, [0x11C7]⟩,
  ⟨0x3169, 0x3169, [0x11CC]⟩, ⟨0x316A, 0x316A, [0x11CE]⟩, ⟨0x316B, 0x316B, [0x11D3]⟩,
  ⟨0x316C, 0x316C, [0x11D7]⟩, ⟨0x316D, 0x316D, [0x11D9]⟩, ⟨0x316E, 0x316E, [0x111C]⟩,
  ⟨0x316F, 0x316F, [0x11DD]⟩, ⟨0x3170, 0x3170, [0x11DF]⟩, ⟨0x3171, 0x3172, [0x111D]⟩,
  ⟨0x3173, 0x3173, [0x1120]⟩, ⟨0x3174, 0x3175, [0x1122]⟩, ⟨0x3176, 0x3176, [0x1127]⟩,
  ⟨0x3177, 0x3177, [0x1129]⟩, ⟨0x3178, 0x317C, [0x112B]⟩, ⟨0x317D, 0x317D, [0x1132]⟩,
  ⟨0x317E, 0x317E, [0x1136]⟩, ⟨0x317F, 0x317F, [0x1140]⟩, ⟨0x3180, 0x3180, [0x1147]⟩,
  ⟨0x3181, 0x3181, [0x114C]⟩, ⟨0x3182, 0x3183, [0x11F1]⟩, ⟨0x3184, 0x3186, [0x1157]⟩,
  ⟨0x3187, 0x3188, [0x1184]⟩, ⟨0x3189, 0x3189, [0x1188]⟩, ⟨0x318A, 0x318B, [0x1191]⟩,
  ⟨0x318C, 0x318C, [0x1194]⟩, ⟨0x318D, 0x318D, [0x119E]⟩, ⟨0x318E, 0x318E, [0x11A1]⟩,
  ⟨0x3192, 0x3192, [0x4E00]⟩, ⟨0x3193, 0x3193, [0x4E8C]⟩, ⟨0x3194, 0x3194, [0x4E09]⟩,
  ⟨0x3195, 0x3195, [0x56DB]⟩, ⟨0x3196, 0x3196, [0x4E0A]⟩, ⟨0x3197, 0x3197, [0x4E2D]⟩,
  ⟨0x3198, 0x3198, [0x4E0B]⟩, ⟨0x3199, 0x3199, [0x7532]⟩, ⟨0x319A, 0x319A, [0x4E59]⟩,
  ⟨0x319B, 0x319B, [0x4E19]⟩, ⟨0x319C, 0x319C, [0x4E01]⟩, ⟨0x319D, 0x319D, [0x5929]⟩,
  ⟨0x319E, 0x319E, [0x5730]⟩, ⟨0x319F, 0x319F, [0x4EBA]⟩,
  ⟨0x3200, 0x3200, [0x0028, 0x1100, 0x0029]⟩, ⟨0x3201, 0x3201, [0x0028, 0x1102, 0x0029]⟩,
  ⟨0x3202, 0x3202, [0x0028, 0x1103, 0x0029]⟩, ⟨0x3203, 0x3203, [0x0028, 0x1105, 0x0029]⟩,
  ⟨0x3204, 0x3204, [0x0028, 0x1106, 0x0029]⟩, ⟨0x3205, 0x3205, [0x0028, 0x1107, 0x0029]⟩,
  ⟨0x3206, 0x3206, [0x0028, 0x1109, 0x0029]⟩, ⟨0x3207, 0x3207, [0x0028, 0x110B, 0x0029]⟩,
  ⟨0x3208, 0x3208, [0x0028, 0x110C, 0x0029]⟩, ⟨0x3209, 0x3209, [0x0028, 0x110E, 0x0029]⟩,
  ⟨0x320A, 0x320A, [0x0028, 0x110F, 0x0029]⟩, ⟨0x320B, 0x320B, [0x0028, 0x1110, 0x0029]⟩,
  ⟨0x320C, 0x320C, [0x0028, 0x1111, 0x0029]⟩, ⟨0x320D, 0x320D, [0x0028, 0x1112, 0x0029]⟩,
  ⟨0x320E, 0x320E, [0x0028, 0x1100, 0x1161, 0x0029]⟩,
  ⟨0x320F, 0x320F, [0x0028, 0x1102, 0x1161, 0x0029]⟩,
  ⟨0x3210, 0x3210, [0x0028, 0x1103, 0x1161, 0x0029]⟩,
  ⟨0x3211, 0x3211, [0x0028, 0x1105, 0x1161, 0x0029]⟩,
  ⟨0x3212, 0x3212, [0x0028, 0x1106, 0x1161, 0x0029]⟩,
  ⟨0x3213, 0x3213, [0x0028, 0x1107, 0x1161, 0x0029]⟩,
  ⟨0x3214, 0x3214, [0x0028, 0x1109, 0x1161, 0x0029]⟩,
  ⟨0x3215, 0x3215, [0x0028, 0x110B, 0x1161, 0x0029]⟩,
  ⟨0x3216, 0x3216, [0x0028, 0x110C, 0x1161, 0x0029]⟩]

/-- Decompositions from 3217 to 332A. -/
def from3217 : List Mapping := [
  ⟨0x3217, 0x3217, [0x0028, 0x110E, 0x1161, 0x0029]⟩,
  ⟨0x3218, 0x3218, [0x0028, 0x110F, 0x1161, 0x0029]⟩,
  ⟨0x3219, 0x3219, [0x0028, 0x1110, 0x1161, 0x0029]⟩,
  ⟨0x321A, 0x321A, [0x0028, 0x1111, 0x1161, 0x0029]⟩,
  ⟨0x321B, 0x321B, [0x0028, 0x1112, 0x1161, 0x0029]⟩,
  ⟨0x321C, 0x321C, [0x0028, 0x110C, 0x116E, 0x0029]⟩,
  ⟨0x321D, 0x321D, [0x0028, 0x110B, 0x1169, 0x110C, 0x1165, 0x11AB, 0x0029]⟩,
  ⟨0x321E, 0x321E, [0x0028, 0x110B, 0x1169, 0x1112, 0x116E, 0x0029]⟩,
  ⟨0x3220, 0x3220, [0x0028, 0x4E00, 0x0029]⟩, ⟨0x3221, 0x3221, [0x0028, 0x4E8C, 0x0029]⟩,
  ⟨0x3222, 0x3222, [0x0028, 0x4E09, 0x0029]⟩, ⟨0x3223, 0x3223, [0x0028, 0x56DB, 0x0029]⟩,
  ⟨0x3224, 0x3224, [0x0028, 0x4E94, 0x0029]⟩, ⟨0x3225, 0x3225, [0x0028, 0x516D, 0x0029]⟩,
  ⟨0x3226, 0x3226, [0x0028, 0x4E03, 0x0029]⟩, ⟨0x3227, 0x3227, [0x0028, 0x516B, 0x0029]⟩,
  ⟨0x3228, 0x3228, [0x0028, 0x4E5D, 0x0029]⟩, ⟨0x3229, 0x3229, [0x0028, 0x5341, 0x0029]⟩,
  ⟨0x322A, 0x322A, [0x0028, 0x6708, 0x0029]⟩, ⟨0x322B, 0x322B, [0x0028, 0x706B, 0x0029]⟩,
  ⟨0x322C, 0x322C, [0x0028, 0x6C34, 0x0029]⟩, ⟨0x322D, 0x322D, [0x0028, 0x6728, 0x0029]⟩,
  ⟨0x322E, 0x322E, [0x0028, 0x91D1, 0x0029]⟩, ⟨0x322F, 0x322F, [0x0028, 0x571F, 0x0029]⟩,
  ⟨0x3230, 0x3230, [0x0028, 0x65E5, 0x0029]⟩, ⟨0x3231, 0x3231, [0x0028, 0x682A, 0x0029]⟩,
  ⟨0x3232, 0x3232, [0x0028, 0x6709, 0x0029]⟩, ⟨0x3233, 0x3233, [0x0028, 0x793E, 0x0029]⟩,
  ⟨0x3234, 0x3234, [0x0028, 0x540D, 0x0029]⟩, ⟨0x3235, 0x3235, [0x0028, 0x7279, 0x0029]⟩,
  ⟨0x3236, 0x3236, [0x0028, 0x8CA1, 0x0029]⟩, ⟨0x3237, 0x3237, [0x0028, 0x795D, 0x0029]⟩,
  ⟨0x3238, 0x3238, [0x0028, 0x52B4, 0x0029]⟩, ⟨0x3239, 0x3239, [0x0028, 0x4EE3, 0x0029]⟩,
  ⟨0x323A, 0x323A, [0x0028, 0x547C, 0x0029]⟩, ⟨0x323B, 0x323B, [0x0028, 0x5B66, 0x0029]⟩,
  ⟨0x323C, 0x323C, [0x0028, 0x76E3, 0x0029]⟩, ⟨0x323D, 0x323D, [0x0028, 0x4F01, 0x0029]⟩,
  ⟨0x323E, 0x323E, [0x0028, 0x8CC7, 0x0029]⟩, ⟨0x323F, 0x323F, [0x0028, 0x5354, 0x0029]⟩,
  ⟨0x3240, 0x3240, [0x0028, 0x796D, 0x0029]⟩, ⟨0x3241, 0x3241, [0x0028, 0x4F11, 0x0029]⟩,
  ⟨0x3242, 0x3242, [0x0028, 0x81EA, 0x0029]⟩, ⟨0x3243, 0x3243, [0x0028, 0x81F3, 0x0029]⟩,
  ⟨0x3244, 0x3244, [0x554F]⟩, ⟨0x3245, 0x3245, [0x5E7C]⟩, ⟨0x3246, 0x3246, [0x6587]⟩,
  ⟨0x3247, 0x3247, [0x7B8F]⟩, ⟨0x3250, 0x3250, [0x0050, 0x0054, 0x0045]⟩,
  ⟨0x3251, 0x3251, [0x0032, 0x0031]⟩, ⟨0x3252, 0x3252, [0x0032, 0x0032]⟩,
  ⟨0x3253, 0x3253, [0x0032, 0x0033]⟩, ⟨0x3254, 0x3254, [0x0032, 0x0034]⟩,
  ⟨0x3255, 0x3255, [0x0032, 0x0035]⟩, ⟨0x3256, 0x3256, [0x0032, 0x0036]⟩,
  ⟨0x3257, 0x3257, [0x0032, 0x0037]⟩, ⟨0x3258, 0x3258, [0x0032, 0x0038]⟩,
  ⟨0x3259, 0x3259, [0x0032, 0x0039]⟩, ⟨0x325A, 0x325A, [0x0033, 0x0030]⟩,
  ⟨0x325B, 0x325B, [0x0033, 0x0031]⟩, ⟨0x325C, 0x325C, [0x0033, 0x0032]⟩,
  ⟨0x325D, 0x325D, [0x0033, 0x0033]⟩, ⟨0x325E, 0x325E, [0x0033, 0x0034]⟩,
  ⟨0x325F, 0x325F, [0x0033, 0x0035]⟩, ⟨0x3260, 0x3260, [0x1100]⟩, ⟨0x3261, 0x3262, [0x1102]⟩,
  ⟨0x3263, 0x3265, [0x1105]⟩, ⟨0x3266, 0x3266, [0x1109]⟩, ⟨0x3267, 0x3268, [0x110B]⟩,
  ⟨0x3269, 0x326D, [0x110E]⟩, ⟨0x326E, 0x326E, [0x1100, 0x1161]⟩,
  ⟨0x326F, 0x326F, [0x1102, 0x1161]⟩, ⟨0x3270, 0x3270, [0x1103, 0x1161]⟩,
  ⟨0x3271, 0x3271, [0x1105, 0x1161]⟩, ⟨0x3272, 0x3272, [0x1106, 0x1161]⟩,
  ⟨0x3273, 0x3273, [0x1107, 0x1161]⟩, ⟨0x3274, 0x3274, [0x1109, 0x1161]⟩,
  ⟨0x3275, 0x3275, [0x110B, 0x1161]⟩, ⟨0x3276, 0x3276, [0x110C, 0x1161]⟩,
  ⟨0x3277, 0x3277, [0x110E, 0x1161]⟩, ⟨0x3278, 0x3278, [0x110F, 0x1161]⟩,
  ⟨0x3279, 0x3279, [0x1110, 0x1161]⟩, ⟨0x327A, 0x327A, [0x1111, 0x1161]⟩,
  ⟨0x327B, 0x327B, [0x1112, 0x1161]⟩, ⟨0x327C, 0x327C, [0x110E, 0x1161, 0x11B7, 0x1100, 0x1169]⟩,
  ⟨0x327D, 0x327D, [0x110C, 0x116E, 0x110B, 0x1174]⟩, ⟨0x327E, 0x327E, [0x110B, 0x116E]⟩,
  ⟨0x3280, 0x3280, [0x4E00]⟩, ⟨0x3281, 0x3281, [0x4E8C]⟩, ⟨0x3282, 0x3282, [0x4E09]⟩,
  ⟨0x3283, 0x3283, [0x56DB]⟩, ⟨0x3284, 0x3284, [0x4E94]⟩, ⟨0x3285, 0x3285, [0x516D]⟩,
  ⟨0x3286, 0x3286, [0x4E03]⟩, ⟨0x3287, 0x3287, [0x516B]⟩, ⟨0x3288, 0x3288, [0x4E5D]⟩,
  ⟨0x3289, 0x3289, [0x5341]⟩, ⟨0x328A, 0x328A, [0x6708]⟩, ⟨0x328B, 0x328B, [0x706B]⟩,
  ⟨0x328C, 0x328C, [0x6C34]⟩, ⟨0x328D, 0x328D, [0x6728]⟩, ⟨0x328E, 0x328E, [0x91D1]⟩,
  ⟨0x328F, 0x328F, [0x571F]⟩, ⟨0x3290, 0x3290, [0x65E5]⟩, ⟨0x3291, 0x3291, [0x682A]⟩,
  ⟨0x3292, 0x3292, [0x6709]⟩, ⟨0x3293, 0x3293, [0x793E]⟩, ⟨0x3294, 0x3294, [0x540D]⟩,
  ⟨0x3295, 0x3295, [0x7279]⟩, ⟨0x3296, 0x3296, [0x8CA1]⟩, ⟨0x3297, 0x3297, [0x795D]⟩,
  ⟨0x3298, 0x3298, [0x52B4]⟩, ⟨0x3299, 0x3299, [0x79D8]⟩, ⟨0x329A, 0x329A, [0x7537]⟩,
  ⟨0x329B, 0x329B, [0x5973]⟩, ⟨0x329C, 0x329C, [0x9069]⟩, ⟨0x329D, 0x329D, [0x512A]⟩,
  ⟨0x329E, 0x329E, [0x5370]⟩, ⟨0x329F, 0x329F, [0x6CE8]⟩, ⟨0x32A0, 0x32A0, [0x9805]⟩,
  ⟨0x32A1, 0x32A1, [0x4F11]⟩, ⟨0x32A2, 0x32A2, [0x5199]⟩, ⟨0x32A3, 0x32A3, [0x6B63]⟩,
  ⟨0x32A4, 0x32A4, [0x4E0A]⟩, ⟨0x32A5, 0x32A5, [0x4E2D]⟩, ⟨0x32A6, 0x32A6, [0x4E0B]⟩,
  ⟨0x32A7, 0x32A7, [0x5DE6]⟩, ⟨0x32A8, 0x32A8, [0x53F3]⟩, ⟨0x32A9, 0x32A9, [0x533B]⟩,
  ⟨0x32AA, 0x32AA, [0x5B97]⟩, ⟨0x32AB, 0x32AB, [0x5B66]⟩, ⟨0x32AC, 0x32AC, [0x76E3]⟩,
  ⟨0x32AD, 0x32AD, [0x4F01]⟩, ⟨0x32AE, 0x32AE, [0x8CC7]⟩, ⟨0x32AF, 0x32AF, [0x5354]⟩,
  ⟨0x32B0, 0x32B0, [0x591C]⟩, ⟨0x32B1, 0x32B1, [0x0033, 0x0036]⟩,
  ⟨0x32B2, 0x32B2, [0x0033, 0x0037]⟩, ⟨0x32B3, 0x32B3, [0x0033, 0x0038]⟩,
  ⟨0x32B4, 0x32B4, [0x0033, 0x0039]⟩, ⟨0x32B5, 0x32B5, [0x0034, 0x0030]⟩,
  ⟨0x32B6, 0x32B6, [0x0034, 0x0031]⟩, ⟨0x32B7, 0x32B7, [0x0034, 0x0032]⟩,
  ⟨0x32B8, 0x32B8, [0x0034, 0x0033]⟩, ⟨0x32B9, 0x32B9, [0x0034, 0x0034]⟩,
  ⟨0x32BA, 0x32BA, [0x0034, 0x0035]⟩, ⟨0x32BB, 0x32BB, [0x0034, 0x0036]⟩,
  ⟨0x32BC, 0x32BC, [0x0034, 0x0037]⟩, ⟨0x32BD, 0x32BD, [0x0034, 0x0038]⟩,
  ⟨0x32BE, 0x32BE, [0x0034, 0x0039]⟩, ⟨0x32BF, 0x32BF, [0x0035, 0x0030]⟩,
  ⟨0x32C0, 0x32C0, [0x0031, 0x6708]⟩, ⟨0x32C1, 0x32C1, [0x0032, 0x6708]⟩,
  ⟨0x32C2, 0x32C2, [0x0033, 0x6708]⟩, ⟨0x32C3, 0x32C3, [0x0034, 0x6708]⟩,
  ⟨0x32C4, 0x32C4, [0x0035, 0x6708]⟩, ⟨0x32C5, 0x32C5, [0x0036, 0x6708]⟩,
  ⟨0x32C6, 0x32C6, [0x0037, 0x6708]⟩, ⟨0x32C7, 0x32C7, [0x0038, 0x6708]⟩,
  ⟨0x32C8, 0x32C8, [0x0039, 0x6708]⟩, ⟨0x32C9, 0x32C9, [0x0031, 0x0030, 0x6708]⟩,
  ⟨0x32CA, 0x32CA, [0x0031, 0x0031, 0x6708]⟩, ⟨0x32CB, 0x32CB, [0x0031, 0x0032, 0x6708]⟩,
  ⟨0x32CC, 0x32CC, [0x0048, 0x0067]⟩, ⟨0x32CD, 0x32CD, [0x0065, 0x0072, 0x0067]⟩,
  ⟨0x32CE, 0x32CE, [0x0065, 0x0056]⟩, ⟨0x32CF, 0x32CF, [0x004C, 0x0054, 0x0044]⟩,
  ⟨0x32D0, 0x32D0, [0x30A2]⟩, ⟨0x32D1, 0x32D1, [0x30A4]⟩, ⟨0x32D2, 0x32D2, [0x30A6]⟩,
  ⟨0x32D3, 0x32D3, [0x30A8]⟩, ⟨0x32D4, 0x32D5, [0x30AA]⟩, ⟨0x32D6, 0x32D6, [0x30AD]⟩,
  ⟨0x32D7, 0x32D7, [0x30AF]⟩, ⟨0x32D8, 0x32D8, [0x30B1]⟩, ⟨0x32D9, 0x32D9, [0x30B3]⟩,
  ⟨0x32DA, 0x32DA, [0x30B5]⟩, ⟨0x32DB, 0x32DB, [0x30B7]⟩, ⟨0x32DC, 0x32DC, [0x30B9]⟩,
  ⟨0x32DD, 0x32DD, [0x30BB]⟩, ⟨0x32DE, 0x32DE, [0x30BD]⟩, ⟨0x32DF, 0x32DF, [0x30BF]⟩,
  ⟨0x32E0, 0x32E0, [0x30C1]⟩, ⟨0x32E1, 0x32E1, [0x30C4]⟩, ⟨0x32E2, 0x32E2, [0x30C6]⟩,
  ⟨0x32E3, 0x32E3, [0x30C8]⟩, ⟨0x32E4, 0x32E9, [0x30CA]⟩, ⟨0x32EA, 0x32EA, [0x30D2]⟩,
  ⟨0x32EB, 0x32EB, [0x30D5]⟩, ⟨0x32EC, 0x32EC, [0x30D8]⟩, ⟨0x32ED, 0x32ED, [0x30DB]⟩,
  ⟨0x32EE, 0x32F2, [0x30DE]⟩, ⟨0x32F3, 0x32F3, [0x30E4]⟩, ⟨0x32F4, 0x32F4, [0x30E6]⟩,
  ⟨0x32F5, 0x32FA, [0x30E8]⟩, ⟨0x32FB, 0x32FE, [0x30EF]⟩, ⟨0x32FF, 0x32FF, [0x4EE4, 0x548C]⟩,
  ⟨0x3300, 0x3300, [0x30A2, 0x30CF, 0x309A, 0x30FC, 0x30C8]⟩,
  ⟨0x3301, 0x3301, [0x30A2, 0x30EB, 0x30D5, 0x30A1]⟩,
  ⟨0x3302, 0x3302, [0x30A2, 0x30F3, 0x30D8, 0x309A, 0x30A2]⟩,
  ⟨0x3303, 0x3303, [0x30A2, 0x30FC, 0x30EB]⟩,
  ⟨0x3304, 0x3304, [0x30A4, 0x30CB, 0x30F3, 0x30AF, 0x3099]⟩,
  ⟨0x3305, 0x3305, [0x30A4, 0x30F3, 0x30C1]⟩, ⟨0x3306, 0x3306, [0x30A6, 0x30A9, 0x30F3]⟩,
  ⟨0x3307, 0x3307, [0x30A8, 0x30B9, 0x30AF, 0x30FC, 0x30C8, 0x3099]⟩,
  ⟨0x3308, 0x3308, [0x30A8, 0x30FC, 0x30AB, 0x30FC]⟩, ⟨0x3309, 0x3309, [0x30AA, 0x30F3, 0x30B9]⟩,
  ⟨0x330A, 0x330A, [0x30AA, 0x30FC, 0x30E0]⟩, ⟨0x330B, 0x330B, [0x30AB, 0x30A4, 0x30EA]⟩,
  ⟨0x330C, 0x330C, [0x30AB, 0x30E9, 0x30C3, 0x30C8]⟩,
  ⟨0x330D, 0x330D, [0x30AB, 0x30ED, 0x30EA, 0x30FC]⟩,
  ⟨0x330E, 0x330E, [0x30AB, 0x3099, 0x30ED, 0x30F3]⟩,
  ⟨0x330F, 0x330F, [0x30AB, 0x3099, 0x30F3, 0x30DE]⟩,
  ⟨0x3310, 0x3310, [0x30AD, 0x3099, 0x30AB, 0x3099]⟩,
  ⟨0x3311, 0x3311, [0x30AD, 0x3099, 0x30CB, 0x30FC]⟩,
  ⟨0x3312, 0x3312, [0x30AD, 0x30E5, 0x30EA, 0x30FC]⟩,
  ⟨0x3313, 0x3313, [0x30AD, 0x3099, 0x30EB, 0x30BF, 0x3099, 0x30FC]⟩,
  ⟨0x3314, 0x3314, [0x30AD, 0x30ED]⟩,
  ⟨0x3315, 0x3315, [0x30AD, 0x30ED, 0x30AF, 0x3099, 0x30E9, 0x30E0]⟩,
  ⟨0x3316, 0x3316, [0x30AD, 0x30ED, 0x30E1, 0x30FC, 0x30C8, 0x30EB]⟩,
  ⟨0x3317, 0x3317, [0x30AD, 0x30ED, 0x30EF, 0x30C3, 0x30C8]⟩,
  ⟨0x3318, 0x3318, [0x30AF, 0x3099, 0x30E9, 0x30E0]⟩,
  ⟨0x3319, 0x3319, [0x30AF, 0x3099, 0x30E9, 0x30E0, 0x30C8, 0x30F3]⟩,
  ⟨0x331A, 0x331A, [0x30AF, 0x30EB, 0x30BB, 0x3099, 0x30A4, 0x30ED]⟩,
  ⟨0x331B, 0x331B, [0x30AF, 0x30ED, 0x30FC, 0x30CD]⟩, ⟨0x331C, 0x331C, [0x30B1, 0x30FC, 0x30B9]⟩,
  ⟨0x331D, 0x331D, [0x30B3, 0x30EB, 0x30CA]⟩, ⟨0x331E, 0x331E, [0x30B3, 0x30FC, 0x30DB, 0x309A]⟩,
  ⟨0x331F, 0x331F, [0x30B5, 0x30A4, 0x30AF, 0x30EB]⟩,
  ⟨0x3320, 0x3320, [0x30B5, 0x30F3, 0x30C1, 0x30FC, 0x30E0]⟩,
  ⟨0x3321, 0x3321, [0x30B7, 0x30EA, 0x30F3, 0x30AF, 0x3099]⟩,
  ⟨0x3322, 0x3322, [0x30BB, 0x30F3, 0x30C1]⟩, ⟨0x3323, 0x3323, [0x30BB, 0x30F3, 0x30C8]⟩,
  ⟨0x3324, 0x3324, [0x30BF, 0x3099, 0x30FC, 0x30B9]⟩, ⟨0x3325, 0x3325, [0x30C6, 0x3099, 0x30B7]⟩,
  ⟨0x3326, 0x3326, [0x30C8, 0x3099, 0x30EB]⟩, ⟨0x3327, 0x3327, [0x30C8, 0x30F3]⟩,
  ⟨0x3328, 0x3328, [0x30CA, 0x30CE]⟩, ⟨0x3329, 0x3329, [0x30CE, 0x30C3, 0x30C8]⟩,
  ⟨0x332A, 0x332A, [0x30CF, 0x30A4, 0x30C4]⟩]

/-- Decompositions from 332B to F90D. -/
def from332B : List Mapping := [
  ⟨0x332B, 0x332B, [0x30CF, 0x309A, 0x30FC, 0x30BB, 0x30F3, 0x30C8]⟩,
  ⟨0x332C, 0x332C, [0x30CF, 0x309A, 0x30FC, 0x30C4]⟩,
  ⟨0x332D, 0x332D, [0x30CF, 0x3099, 0x30FC, 0x30EC, 0x30EB]⟩,
  ⟨0x332E, 0x332E, [0x30D2, 0x309A, 0x30A2, 0x30B9, 0x30C8, 0x30EB]⟩,
  ⟨0x332F, 0x332F, [0x30D2, 0x309A, 0x30AF, 0x30EB]⟩, ⟨0x3330, 0x3330, [0x30D2, 0x309A, 0x30B3]⟩,
  ⟨0x3331, 0x3331, [0x30D2, 0x3099, 0x30EB]⟩,
  ⟨0x3332, 0x3332, [0x30D5, 0x30A1, 0x30E9, 0x30C3, 0x30C8, 0x3099]⟩,
  ⟨0x3333, 0x3333, [0x30D5, 0x30A3, 0x30FC, 0x30C8]⟩,
  ⟨0x3334, 0x3334, [0x30D5, 0x3099, 0x30C3, 0x30B7, 0x30A7, 0x30EB]⟩,
  ⟨0x3335, 0x3335, [0x30D5, 0x30E9, 0x30F3]⟩,
  ⟨0x3336, 0x3336, [0x30D8, 0x30AF, 0x30BF, 0x30FC, 0x30EB]⟩,
  ⟨0x3337, 0x3337, [0x30D8, 0x309A, 0x30BD]⟩, ⟨0x3338, 0x3338, [0x30D8, 0x309A, 0x30CB, 0x30D2]⟩,
  ⟨0x3339, 0x3339, [0x30D8, 0x30EB, 0x30C4]⟩, ⟨0x333A, 0x333A, [0x30D8, 0x309A, 0x30F3, 0x30B9]⟩,
  ⟨0x333B, 0x333B, [0x30D8, 0x309A, 0x30FC, 0x30B7, 0x3099]⟩,
  ⟨0x333C, 0x333C, [0x30D8, 0x3099, 0x30FC, 0x30BF]⟩,
  ⟨0x333D, 0x333D, [0x30DB, 0x309A, 0x30A4, 0x30F3, 0x30C8]⟩,
  ⟨0x333E, 0x333E, [0x30DB, 0x3099, 0x30EB, 0x30C8]⟩, ⟨0x333F, 0x333F, [0x30DB, 0x30F3]⟩,
  ⟨0x3340, 0x3340, [0x30DB, 0x309A, 0x30F3, 0x30C8, 0x3099]⟩,
  ⟨0x3341, 0x3341, [0x30DB, 0x30FC, 0x30EB]⟩, ⟨0x3342, 0x3342, [0x30DB, 0x30FC, 0x30F3]⟩,
  ⟨0x3343, 0x3343, [0x30DE, 0x30A4, 0x30AF, 0x30ED]⟩, ⟨0x3344, 0x3344, [0x30DE, 0x30A4, 0x30EB]⟩,
  ⟨0x3345, 0x3345, [0x30DE, 0x30C3, 0x30CF]⟩, ⟨0x3346, 0x3346, [0x30DE, 0x30EB, 0x30AF]⟩,
  ⟨0x3347, 0x3347, [0x30DE, 0x30F3, 0x30B7, 0x30E7, 0x30F3]⟩,
  ⟨0x3348, 0x3348, [0x30DF, 0x30AF, 0x30ED, 0x30F3]⟩, ⟨0x3349, 0x3349, [0x30DF, 0x30EA]⟩,
  ⟨0x334A, 0x334A, [0x30DF, 0x30EA, 0x30CF, 0x3099, 0x30FC, 0x30EB]⟩,
  ⟨0x334B, 0x334B, [0x30E1, 0x30AB, 0x3099]⟩,
  ⟨0x334C, 0x334C, [0x30E1, 0x30AB, 0x3099, 0x30C8, 0x30F3]⟩,
  ⟨0x334D, 0x334D, [0x30E1, 0x30FC, 0x30C8, 0x30EB]⟩,
  ⟨0x334E, 0x334E, [0x30E4, 0x30FC, 0x30C8, 0x3099]⟩, ⟨0x334F, 0x334F, [0x30E4, 0x30FC, 0x30EB]⟩,
  ⟨0x3350, 0x3350, [0x30E6, 0x30A2, 0x30F3]⟩, ⟨0x3351, 0x3351, [0x30EA, 0x30C3, 0x30C8, 0x30EB]⟩,
  ⟨0x3352, 0x3352, [0x30EA, 0x30E9]⟩, ⟨0x3353, 0x3353, [0x30EB, 0x30D2, 0x309A, 0x30FC]⟩,
  ⟨0x3354, 0x3354, [0x30EB, 0x30FC, 0x30D5, 0x3099, 0x30EB]⟩, ⟨0x3355, 0x3355, [0x30EC, 0x30E0]⟩,
  ⟨0x3356, 0x3356, [0x30EC, 0x30F3, 0x30C8, 0x30B1, 0x3099, 0x30F3]⟩,
  ⟨0x3357, 0x3357, [0x30EF, 0x30C3, 0x30C8]⟩, ⟨0x3358, 0x3358, [0x0030, 0x70B9]⟩,
  ⟨0x3359, 0x3359, [0x0031, 0x70B9]⟩, ⟨0x335A, 0x335A, [0x0032, 0x70B9]⟩,
  ⟨0x335B, 0x335B, [0x0033, 0x70B9]⟩, ⟨0x335C, 0x335C, [0x0034, 0x70B9]⟩,
  ⟨0x335D, 0x335D, [0x0035, 0x70B9]⟩, ⟨0x335E, 0x335E, [0x0036, 0x70B9]⟩,
  ⟨0x335F, 0x335F, [0x0037, 0x70B9]⟩, ⟨0x3360, 0x3360, [0x0038, 0x70B9]⟩,
  ⟨0x3361, 0x3361, [0x0039, 0x70B9]⟩, ⟨0x3362, 0x3362, [0x0031, 0x0030, 0x70B9]⟩,
  ⟨0x3363, 0x3363, [0x0031, 0x0031, 0x70B9]⟩, ⟨0x3364, 0x3364, [0x0031, 0x0032, 0x70B9]⟩,
  ⟨0x3365, 0x3365, [0x0031, 0x0033, 0x70B9]⟩, ⟨0x3366, 0x3366, [0x0031, 0x0034, 0x70B9]⟩,
  ⟨0x3367, 0x3367, [0x0031, 0x0035, 0x70B9]⟩, ⟨0x3368, 0x3368, [0x0031, 0x0036, 0x70B9]⟩,
  ⟨0x3369, 0x3369, [0x0031, 0x0037, 0x70B9]⟩, ⟨0x336A, 0x336A, [0x0031, 0x0038, 0x70B9]⟩,
  ⟨0x336B, 0x336B, [0x0031, 0x0039, 0x70B9]⟩, ⟨0x336C, 0x336C, [0x0032, 0x0030, 0x70B9]⟩,
  ⟨0x336D, 0x336D, [0x0032, 0x0031, 0x70B9]⟩, ⟨0x336E, 0x336E, [0x0032, 0x0032, 0x70B9]⟩,
  ⟨0x336F, 0x336F, [0x0032, 0x0033, 0x70B9]⟩, ⟨0x3370, 0x3370, [0x0032, 0x0034, 0x70B9]⟩,
  ⟨0x3371, 0x3371, [0x0068, 0x0050, 0x0061]⟩, ⟨0x3372, 0x3372, [0x0064, 0x0061]⟩,
  ⟨0x3373, 0x3373, [0x0041, 0x0055]⟩, ⟨0x3374, 0x3374, [0x0062, 0x0061, 0x0072]⟩,
  ⟨0x3375, 0x3375, [0x006F, 0x0056]⟩, ⟨0x3376, 0x3376, [0x0070, 0x0063]⟩,
  ⟨0x3377, 0x3377, [0x0064, 0x006D]⟩, ⟨0x3378, 0x3378, [0x0064, 0x006D, 0x0032]⟩,
  ⟨0x3379, 0x3379, [0x0064, 0x006D, 0x0033]⟩, ⟨0x337A, 0x337A, [0x0049, 0x0055]⟩,
  ⟨0x337B, 0x337B, [0x5E73, 0x6210]⟩, ⟨0x337C, 0x337C, [0x662D, 0x548C]⟩,
  ⟨0x337D, 0x337D, [0x5927, 0x6B63]⟩, ⟨0x337E, 0x337E, [0x660E, 0x6CBB]⟩,
  ⟨0x337F, 0x337F, [0x682A, 0x5F0F, 0x4F1A, 0x793E]⟩, ⟨0x3380, 0x3380, [0x0070, 0x0041]⟩,
  ⟨0x3381, 0x3381, [0x006E, 0x0041]⟩, ⟨0x3382, 0x3382, [0x03BC, 0x0041]⟩,
  ⟨0x3383, 0x3383, [0x006D, 0x0041]⟩, ⟨0x3384, 0x3384, [0x006B, 0x0041]⟩,
  ⟨0x3385, 0x3385, [0x004B, 0x0042]⟩, ⟨0x3386, 0x3386, [0x004D, 0x0042]⟩,
  ⟨0x3387, 0x3387, [0x0047, 0x0042]⟩, ⟨0x3388, 0x3388, [0x0063, 0x0061, 0x006C]⟩,
  ⟨0x3389, 0x3389, [0x006B, 0x0063, 0x0061, 0x006C]⟩, ⟨0x338A, 0x338A, [0x0070, 0x0046]⟩,
  ⟨0x338B, 0x338B, [0x006E, 0x0046]⟩, ⟨0x338C, 0x338C, [0x03BC, 0x0046]⟩,
  ⟨0x338D, 0x338D, [0x03BC, 0x0067]⟩, ⟨0x338E, 0x338E, [0x006D, 0x0067]⟩,
  ⟨0x338F, 0x338F, [0x006B, 0x0067]⟩, ⟨0x3390, 0x3390, [0x0048, 0x007A]⟩,
  ⟨0x3391, 0x3391, [0x006B, 0x0048, 0x007A]⟩, ⟨0x3392, 0x3392, [0x004D, 0x0048, 0x007A]⟩,
  ⟨0x3393, 0x3393, [0x0047, 0x0048, 0x007A]⟩, ⟨0x3394, 0x3394, [0x0054, 0x0048, 0x007A]⟩,
  ⟨0x3395, 0x3395, [0x03BC, 0x006C]⟩, ⟨0x3396, 0x3396, [0x006D, 0x006C]⟩,
  ⟨0x3397, 0x3397, [0x0064, 0x006C]⟩, ⟨0x3398, 0x3398, [0x006B, 0x006C]⟩,
  ⟨0x3399, 0x3399, [0x0066, 0x006D]⟩, ⟨0x339A, 0x339A, [0x006E, 0x006D]⟩,
  ⟨0x339B, 0x339B, [0x03BC, 0x006D]⟩, ⟨0x339C, 0x339C, [0x006D, 0x006D]⟩,
  ⟨0x339D, 0x339D, [0x0063, 0x006D]⟩, ⟨0x339E, 0x339E, [0x006B, 0x006D]⟩,
  ⟨0x339F, 0x339F, [0x006D, 0x006D, 0x0032]⟩, ⟨0x33A0, 0x33A0, [0x0063, 0x006D, 0x0032]⟩,
  ⟨0x33A1, 0x33A1, [0x006D, 0x0032]⟩, ⟨0x33A2, 0x33A2, [0x006B, 0x006D, 0x0032]⟩,
  ⟨0x33A3, 0x33A3, [0x006D, 0x006D, 0x0033]⟩, ⟨0x33A4, 0x33A4, [0x0063, 0x006D, 0x0033]⟩,
  ⟨0x33A5, 0x33A5, [0x006D, 0x0033]⟩, ⟨0x33A6, 0x33A6, [0x006B, 0x006D, 0x0033]⟩,
  ⟨0x33A7, 0x33A7, [0x006D, 0x2215, 0x0073]⟩, ⟨0x33A8, 0x33A8, [0x006D, 0x2215, 0x0073, 0x0032]⟩,
  ⟨0x33A9, 0x33A9, [0x0050, 0x0061]⟩, ⟨0x33AA, 0x33AA, [0x006B, 0x0050, 0x0061]⟩,
  ⟨0x33AB, 0x33AB, [0x004D, 0x0050, 0x0061]⟩, ⟨0x33AC, 0x33AC, [0x0047, 0x0050, 0x0061]⟩,
  ⟨0x33AD, 0x33AD, [0x0072, 0x0061, 0x0064]⟩,
  ⟨0x33AE, 0x33AE, [0x0072, 0x0061, 0x0064, 0x2215, 0x0073]⟩,
  ⟨0x33AF, 0x33AF, [0x0072, 0x0061, 0x0064, 0x2215, 0x0073, 0x0032]⟩,
  ⟨0x33B0, 0x33B0, [0x0070, 0x0073]⟩, ⟨0x33B1, 0x33B1, [0x006E, 0x0073]⟩,
  ⟨0x33B2, 0x33B2, [0x03BC, 0x0073]⟩, ⟨0x33B3, 0x33B3, [0x006D, 0x0073]⟩,
  ⟨0x33B4, 0x33B4, [0x0070, 0x0056]⟩, ⟨0x33B5, 0x33B5, [0x006E, 0x0056]⟩,
  ⟨0x33B6, 0x33B6, [0x03BC, 0x0056]⟩, ⟨0x33B7, 0x33B7, [0x006D, 0x0056]⟩,
  ⟨0x33B8, 0x33B8, [0x006B, 0x0056]⟩, ⟨0x33B9, 0x33B9, [0x004D, 0x0056]⟩,
  ⟨0x33BA, 0x33BA, [0x0070, 0x0057]⟩, ⟨0x33BB, 0x33BB, [0x006E, 0x0057]⟩,
  ⟨0x33BC, 0x33BC, [0x03BC, 0x0057]⟩, ⟨0x33BD, 0x33BD, [0x006D, 0x0057]⟩,
  ⟨0x33BE, 0x33BE, [0x006B, 0x0057]⟩, ⟨0x33BF, 0x33BF, [0x004D, 0x0057]⟩,
  ⟨0x33C0, 0x33C0, [0x006B, 0x03A9]⟩, ⟨0x33C1, 0x33C1, [0x004D, 0x03A9]⟩,
  ⟨0x33C2, 0x33C2, [0x0061, 0x002E, 0x006D, 0x002E]⟩, ⟨0x33C3, 0x33C3, [0x0042, 0x0071]⟩,
  ⟨0x33C4, 0x33C4, [0x0063, 0x0063]⟩, ⟨0x33C5, 0x33C5, [0x0063, 0x0064]⟩,
  ⟨0x33C6, 0x33C6, [0x0043, 0x2215, 0x006B, 0x0067]⟩, ⟨0x33C7, 0x33C7, [0x0043, 0x006F, 0x002E]⟩,
  ⟨0x33C8, 0x33C8, [0x0064, 0x0042]⟩, ⟨0x33C9, 0x33C9, [0x0047, 0x0079]⟩,
  ⟨0x33CA, 0x33CA, [0x0068, 0x0061]⟩, ⟨0x33CB, 0x33CB, [0x0048, 0x0050]⟩,
  ⟨0x33CC, 0x33CC, [0x0069, 0x006E]⟩, ⟨0x33CD, 0x33CD, [0x004B, 0x004B]⟩,
  ⟨0x33CE, 0x33CE, [0x004B, 0x004D]⟩, ⟨0x33CF, 0x33CF, [0x006B, 0x0074]⟩,
  ⟨0x33D0, 0x33D0, [0x006C, 0x006D]⟩, ⟨0x33D1, 0x33D1, [0x006C, 0x006E]⟩,
  ⟨0x33D2, 0x33D2, [0x006C, 0x006F, 0x0067]⟩, ⟨0x33D3, 0x33D3, [0x006C, 0x0078]⟩,
  ⟨0x33D4, 0x33D4, [0x006D, 0x0062]⟩, ⟨0x33D5, 0x33D5, [0x006D, 0x0069, 0x006C]⟩,
  ⟨0x33D6, 0x33D6, [0x006D, 0x006F, 0x006C]⟩, ⟨0x33D7, 0x33D7, [0x0050, 0x0048]⟩,
  ⟨0x33D8, 0x33D8, [0x0070, 0x002E, 0x006D, 0x002E]⟩, ⟨0x33D9, 0x33D9, [0x0050, 0x0050, 0x004D]⟩,
  ⟨0x33DA, 0x33DA, [0x0050, 0x0052]⟩, ⟨0x33DB, 0x33DB, [0x0073, 0x0072]⟩,
  ⟨0x33DC, 0x33DC, [0x0053, 0x0076]⟩, ⟨0x33DD, 0x33DD, [0x0057, 0x0062]⟩,
  ⟨0x33DE, 0x33DE, [0x0056, 0x2215, 0x006D]⟩, ⟨0x33DF, 0x33DF, [0x0041, 0x2215, 0x006D]⟩,
  ⟨0x33E0, 0x33E0, [0x0031, 0x65E5]⟩, ⟨0x33E1, 0x33E1, [0x0032, 0x65E5]⟩,
  ⟨0x33E2, 0x33E2, [0x0033, 0x65E5]⟩, ⟨0x33E3, 0x33E3, [0x0034, 0x65E5]⟩,
  ⟨0x33E4, 0x33E4, [0x0035, 0x65E5]⟩, ⟨0x33E5, 0x33E5, [0x0036, 0x65E5]⟩,
  ⟨0x33E6, 0x33E6, [0x0037, 0x65E5]⟩, ⟨0x33E7, 0x33E7, [0x0038, 0x65E5]⟩,
  ⟨0x33E8, 0x33E8, [0x0039, 0x65E5]⟩, ⟨0x33E9, 0x33E9, [0x0031, 0x0030, 0x65E5]⟩,
  ⟨0x33EA, 0x33EA, [0x0031, 0x0031, 0x65E5]⟩, ⟨0x33EB, 0x33EB, [0x0031, 0x0032, 0x65E5]⟩,
  ⟨0x33EC, 0x33EC, [0x0031, 0x0033, 0x65E5]⟩, ⟨0x33ED, 0x33ED, [0x0031, 0x0034, 0x65E5]⟩,
  ⟨0x33EE, 0x33EE, [0x0031, 0x0035, 0x65E5]⟩, ⟨0x33EF, 0x33EF, [0x0031, 0x0036, 0x65E5]⟩,
  ⟨0x33F0, 0x33F0, [0x0031, 0x0037, 0x65E5]⟩, ⟨0x33F1, 0x33F1, [0x0031, 0x0038, 0x65E5]⟩,
  ⟨0x33F2, 0x33F2, [0x0031, 0x0039, 0x65E5]⟩, ⟨0x33F3, 0x33F3, [0x0032, 0x0030, 0x65E5]⟩,
  ⟨0x33F4, 0x33F4, [0x0032, 0x0031, 0x65E5]⟩, ⟨0x33F5, 0x33F5, [0x0032, 0x0032, 0x65E5]⟩,
  ⟨0x33F6, 0x33F6, [0x0032, 0x0033, 0x65E5]⟩, ⟨0x33F7, 0x33F7, [0x0032, 0x0034, 0x65E5]⟩,
  ⟨0x33F8, 0x33F8, [0x0032, 0x0035, 0x65E5]⟩, ⟨0x33F9, 0x33F9, [0x0032, 0x0036, 0x65E5]⟩,
  ⟨0x33FA, 0x33FA, [0x0032, 0x0037, 0x65E5]⟩, ⟨0x33FB, 0x33FB, [0x0032, 0x0038, 0x65E5]⟩,
  ⟨0x33FC, 0x33FC, [0x0032, 0x0039, 0x65E5]⟩, ⟨0x33FD, 0x33FD, [0x0033, 0x0030, 0x65E5]⟩,
  ⟨0x33FE, 0x33FE, [0x0033, 0x0031, 0x65E5]⟩, ⟨0x33FF, 0x33FF, [0x0067, 0x0061, 0x006C]⟩,
  ⟨0xA69C, 0xA69C, [0x044A]⟩, ⟨0xA69D, 0xA69D, [0x044C]⟩, ⟨0xA770, 0xA770, [0xA76F]⟩,
  ⟨0xA7F2, 0xA7F2, [0x0043]⟩, ⟨0xA7F3, 0xA7F3, [0x0046]⟩, ⟨0xA7F4, 0xA7F4, [0x0051]⟩,
  ⟨0xA7F8, 0xA7F8, [0x0126]⟩, ⟨0xA7F9, 0xA7F9, [0x0153]⟩, ⟨0xAB5C, 0xAB5C, [0xA727]⟩,
  ⟨0xAB5D, 0xAB5D, [0xAB37]⟩, ⟨0xAB5E, 0xAB5E, [0x026B]⟩, ⟨0xAB5F, 0xAB5F, [0xAB52]⟩,
  ⟨0xAB69, 0xAB69, [0x028D]⟩, ⟨0xF900, 0xF900, [0x8C48]⟩, ⟨0xF901, 0xF901, [0x66F4]⟩,
  ⟨0xF902, 0xF902, [0x8ECA]⟩, ⟨0xF903, 0xF903, [0x8CC8]⟩, ⟨0xF904, 0xF904, [0x6ED1]⟩,
  ⟨0xF905, 0xF905, [0x4E32]⟩, ⟨0xF906, 0xF906, [0x53E5]⟩, ⟨0xF907, 0xF907, [0x9F9C]⟩,
  ⟨0xF908, 0xF908, [0x9F9C]⟩, ⟨0xF909, 0xF909, [0x5951]⟩, ⟨0xF90A, 0xF90A, [0x91D1]⟩,
  ⟨0xF90B, 0xF90B, [0x5587]⟩, ⟨0xF90C, 0xF90C, [0x5948]⟩, ⟨0xF90D, 0xF90D, [0x61F6]⟩]

/-- Decompositions from F90E to F9FD. -/
def fromF90E : List Mapping := [
  ⟨0xF90E, 0xF90E, [0x7669]⟩, ⟨0xF90F, 0xF90F, [0x7F85]⟩, ⟨0xF910, 0xF910, [0x863F]⟩,
  ⟨0xF911, 0xF911, [0x87BA]⟩, ⟨0xF912, 0xF912, [0x88F8]⟩, ⟨0xF913, 0xF913, [0x908F]⟩,
  ⟨0xF914, 0xF914, [0x6A02]⟩, ⟨0xF915, 0xF915, [0x6D1B]⟩, ⟨0xF916, 0xF916, [0x70D9]⟩,
  ⟨0xF917, 0xF917, [0x73DE]⟩, ⟨0xF918, 0xF918, [0x843D]⟩, ⟨0xF919, 0xF919, [0x916A]⟩,
  ⟨0xF91A, 0xF91A, [0x99F1]⟩, ⟨0xF91B, 0xF91B, [0x4E82]⟩, ⟨0xF91C, 0xF91C, [0x5375]⟩,
  ⟨0xF91D, 0xF91D, [0x6B04]⟩, ⟨0xF91E, 0xF91E, [0x721B]⟩, ⟨0xF91F, 0xF91F, [0x862D]⟩,
  ⟨0xF920, 0xF920, [0x9E1E]⟩, ⟨0xF921, 0xF921, [0x5D50]⟩, ⟨0xF922, 0xF922, [0x6FEB]⟩,
  ⟨0xF923, 0xF923, [0x85CD]⟩, ⟨0xF924, 0xF924, [0x8964]⟩, ⟨0xF925, 0xF925, [0x62C9]⟩,
  ⟨0xF926, 0xF926, [0x81D8]⟩, ⟨0xF927, 0xF927, [0x881F]⟩, ⟨0xF928, 0xF928, [0x5ECA]⟩,
  ⟨0xF929, 0xF929, [0x6717]⟩, ⟨0xF92A, 0xF92A, [0x6D6A]⟩, ⟨0xF92B, 0xF92B, [0x72FC]⟩,
  ⟨0xF92C, 0xF92C, [0x90CE]⟩, ⟨0xF92D, 0xF92D, [0x4F86]⟩, ⟨0xF92E, 0xF92E, [0x51B7]⟩,
  ⟨0xF92F, 0xF92F, [0x52DE]⟩, ⟨0xF930, 0xF930, [0x64C4]⟩, ⟨0xF931, 0xF931, [0x6AD3]⟩,
  ⟨0xF932, 0xF932, [0x7210]⟩, ⟨0xF933, 0xF933, [0x76E7]⟩, ⟨0xF934, 0xF934, [0x8001]⟩,
  ⟨0xF935, 0xF935, [0x8606]⟩, ⟨0xF936, 0xF936, [0x865C]⟩, ⟨0xF937, 0xF937, [0x8DEF]⟩,
  ⟨0xF938, 0xF938, [0x9732]⟩, ⟨0xF939, 0xF939, [0x9B6F]⟩, ⟨0xF93A, 0xF93A, [0x9DFA]⟩,
  ⟨0xF93B, 0xF93B, [0x788C]⟩, ⟨0xF93C, 0xF93C, [0x797F]⟩, ⟨0xF93D, 0xF93D, [0x7DA0]⟩,
  ⟨0xF93E, 0xF93E, [0x83C9]⟩, ⟨0xF93F, 0xF93F, [0x9304]⟩, ⟨0xF940, 0xF940, [0x9E7F]⟩,
  ⟨0xF941, 0xF941, [0x8AD6]⟩, ⟨0xF942, 0xF942, [0x58DF]⟩, ⟨0xF943, 0xF943, [0x5F04]⟩,
  ⟨0xF944, 0xF944, [0x7C60]⟩, ⟨0xF945, 0xF945, [0x807E]⟩, ⟨0xF946, 0xF946, [0x7262]⟩,
  ⟨0xF947, 0xF947, [0x78CA]⟩, ⟨0xF948, 0xF948, [0x8CC2]⟩, ⟨0xF949, 0xF949, [0x96F7]⟩,
  ⟨0xF94A, 0xF94A, [0x58D8]⟩, ⟨0xF94B, 0xF94B, [0x5C62]⟩, ⟨0xF94C, 0xF94C, [0x6A13]⟩,
  ⟨0xF94D, 0xF94D, [0x6DDA]⟩, ⟨0xF94E, 0xF94E, [0x6F0F]⟩, ⟨0xF94F, 0xF94F, [0x7D2F]⟩,
  ⟨0xF950, 0xF950, [0x7E37]⟩, ⟨0xF951, 0xF951, [0x964B]⟩, ⟨0xF952, 0xF952, [0x52D2]⟩,
  ⟨0xF953, 0xF953, [0x808B]⟩, ⟨0xF954, 0xF954, [0x51DC]⟩, ⟨0xF955, 0xF955, [0x51CC]⟩,
  ⟨0xF956, 0xF956, [0x7A1C]⟩, ⟨0xF957, 0xF957, [0x7DBE]⟩, ⟨0xF958, 0xF958, [0x83F1]⟩,
  ⟨0xF959, 0xF959, [0x9675]⟩, ⟨0xF95A, 0xF95A, [0x8B80]⟩, ⟨0xF95B, 0xF95B, [0x62CF]⟩,
  ⟨0xF95C, 0xF95C, [0x6A02]⟩, ⟨0xF95D, 0xF95D, [0x8AFE]⟩, ⟨0xF95E, 0xF95E, [0x4E39]⟩,
  ⟨0xF95F, 0xF95F, [0x5BE7]⟩, ⟨0xF960, 0xF960, [0x6012]⟩, ⟨0xF961, 0xF961, [0x7387]⟩,
  ⟨0xF962, 0xF962, [0x7570]⟩, ⟨0xF963, 0xF963, [0x5317]⟩, ⟨0xF964, 0xF964, [0x78FB]⟩,
  ⟨0xF965, 0xF965, [0x4FBF]⟩, ⟨0xF966, 0xF966, [0x5FA9]⟩, ⟨0xF967, 0xF967, [0x4E0D]⟩,
  ⟨0xF968, 0xF968, [0x6CCC]⟩, ⟨0xF969, 0xF969, [0x6578]⟩, ⟨0xF96A, 0xF96A, [0x7D22]⟩,
  ⟨0xF96B, 0xF96B, [0x53C3]⟩, ⟨0xF96C, 0xF96C, [0x585E]⟩, ⟨0xF96D, 0xF96D, [0x7701]⟩,
  ⟨0xF96E, 0xF96E, [0x8449]⟩, ⟨0xF96F, 0xF96F, [0x8AAA]⟩, ⟨0xF970, 0xF970, [0x6BBA]⟩,
  ⟨0xF971, 0xF971, [0x8FB0]⟩, ⟨0xF972, 0xF972, [0x6C88]⟩, ⟨0xF973, 0xF973, [0x62FE]⟩,
  ⟨0xF974, 0xF974, [0x82E5]⟩, ⟨0xF975, 0xF975, [0x63A0]⟩, ⟨0xF976, 0xF976, [0x7565]⟩,
  ⟨0xF977, 0xF977, [0x4EAE]⟩, ⟨0xF978, 0xF978, [0x5169]⟩, ⟨0xF979, 0xF979, [0x51C9]⟩,
  ⟨0xF97A, 0xF97A, [0x6881]⟩, ⟨0xF97B, 0xF97B, [0x7CE7]⟩, ⟨0xF97C, 0xF97C, [0x826F]⟩,
  ⟨0xF97D, 0xF97D, [0x8AD2]⟩, ⟨0xF97E, 0xF97E, [0x91CF]⟩, ⟨0xF97F, 0xF97F, [0x52F5]⟩,
  ⟨0xF980, 0xF980, [0x5442]⟩, ⟨0xF981, 0xF981, [0x5973]⟩, ⟨0xF982, 0xF982, [0x5EEC]⟩,
  ⟨0xF983, 0xF983, [0x65C5]⟩, ⟨0xF984, 0xF984, [0x6FFE]⟩, ⟨0xF985, 0xF985, [0x792A]⟩,
  ⟨0xF986, 0xF986, [0x95AD]⟩, ⟨0xF987, 0xF987, [0x9A6A]⟩, ⟨0xF988, 0xF988, [0x9E97]⟩,
  ⟨0xF989, 0xF989, [0x9ECE]⟩, ⟨0xF98A, 0xF98A, [0x529B]⟩, ⟨0xF98B, 0xF98B, [0x66C6]⟩,
  ⟨0xF98C, 0xF98C, [0x6B77]⟩, ⟨0xF98D, 0xF98D, [0x8F62]⟩, ⟨0xF98E, 0xF98E, [0x5E74]⟩,
  ⟨0xF98F, 0xF98F, [0x6190]⟩, ⟨0xF990, 0xF990, [0x6200]⟩, ⟨0xF991, 0xF991, [0x649A]⟩,
  ⟨0xF992, 0xF992, [0x6F23]⟩, ⟨0xF993, 0xF993, [0x7149]⟩, ⟨0xF994, 0xF994, [0x7489]⟩,
  ⟨0xF995, 0xF995, [0x79CA]⟩, ⟨0xF996, 0xF996, [0x7DF4]⟩, ⟨0xF997, 0xF997, [0x806F]⟩,
  ⟨0xF998, 0xF998, [0x8F26]⟩, ⟨0xF999, 0xF999, [0x84EE]⟩, ⟨0xF99A, 0xF99A, [0x9023]⟩,
  ⟨0xF99B, 0xF99B, [0x934A]⟩, ⟨0xF99C, 0xF99C, [0x5217]⟩, ⟨0xF99D, 0xF99D, [0x52A3]⟩,
  ⟨0xF99E, 0xF99E, [0x54BD]⟩, ⟨0xF99F, 0xF99F, [0x70C8]⟩, ⟨0xF9A0, 0xF9A0, [0x88C2]⟩,
  ⟨0xF9A1, 0xF9A1, [0x8AAA]⟩, ⟨0xF9A2, 0xF9A2, [0x5EC9]⟩, ⟨0xF9A3, 0xF9A3, [0x5FF5]⟩,
  ⟨0xF9A4, 0xF9A4, [0x637B]⟩, ⟨0xF9A5, 0xF9A5, [0x6BAE]⟩, ⟨0xF9A6, 0xF9A6, [0x7C3E]⟩,
  ⟨0xF9A7, 0xF9A7, [0x7375]⟩, ⟨0xF9A8, 0xF9A8, [0x4EE4]⟩, ⟨0xF9A9, 0xF9A9, [0x56F9]⟩,
  ⟨0xF9AA, 0xF9AA, [0x5BE7]⟩, ⟨0xF9AB, 0xF9AB, [0x5DBA]⟩, ⟨0xF9AC, 0xF9AC, [0x601C]⟩,
  ⟨0xF9AD, 0xF9AD, [0x73B2]⟩, ⟨0xF9AE, 0xF9AE, [0x7469]⟩, ⟨0xF9AF, 0xF9AF, [0x7F9A]⟩,
  ⟨0xF9B0, 0xF9B0, [0x8046]⟩, ⟨0xF9B1, 0xF9B1, [0x9234]⟩, ⟨0xF9B2, 0xF9B2, [0x96F6]⟩,
  ⟨0xF9B3, 0xF9B3, [0x9748]⟩, ⟨0xF9B4, 0xF9B4, [0x9818]⟩, ⟨0xF9B5, 0xF9B5, [0x4F8B]⟩,
  ⟨0xF9B6, 0xF9B6, [0x79AE]⟩, ⟨0xF9B7, 0xF9B7, [0x91B4]⟩, ⟨0xF9B8, 0xF9B8, [0x96B8]⟩,
  ⟨0xF9B9, 0xF9B9, [0x60E1]⟩, ⟨0xF9BA, 0xF9BA, [0x4E86]⟩, ⟨0xF9BB, 0xF9BB, [0x50DA]⟩,
  ⟨0xF9BC, 0xF9BC, [0x5BEE]⟩, ⟨0xF9BD, 0xF9BD, [0x5C3F]⟩, ⟨0xF9BE, 0xF9BE, [0x6599]⟩,
  ⟨0xF9BF, 0xF9BF, [0x6A02]⟩, ⟨0xF9C0, 0xF9C0, [0x71CE]⟩, ⟨0xF9C1, 0xF9C1, [0x7642]⟩,
  ⟨0xF9C2, 0xF9C2, [0x84FC]⟩, ⟨0xF9C3, 0xF9C3, [0x907C]⟩, ⟨0xF9C4, 0xF9C4, [0x9F8D]⟩,
  ⟨0xF9C5, 0xF9C5, [0x6688]⟩, ⟨0xF9C6, 0xF9C6, [0x962E]⟩, ⟨0xF9C7, 0xF9C7, [0x5289]⟩,
  ⟨0xF9C8, 0xF9C8, [0x677B]⟩, ⟨0xF9C9, 0xF9C9, [0x67F3]⟩, ⟨0xF9CA, 0xF9CA, [0x6D41]⟩,
  ⟨0xF9CB, 0xF9CB, [0x6E9C]⟩, ⟨0xF9CC, 0xF9CC, [0x7409]⟩, ⟨0xF9CD, 0xF9CD, [0x7559]⟩,
  ⟨0xF9CE, 0xF9CE, [0x786B]⟩, ⟨0xF9CF, 0xF9CF, [0x7D10]⟩, ⟨0xF9D0, 0xF9D0, [0x985E]⟩,
  ⟨0xF9D1, 0xF9D1, [0x516D]⟩, ⟨0xF9D2, 0xF9D2, [0x622E]⟩, ⟨0xF9D3, 0xF9D3, [0x9678]⟩,
  ⟨0xF9D4, 0xF9D4, [0x502B]⟩, ⟨0xF9D5, 0xF9D5, [0x5D19]⟩, ⟨0xF9D6, 0xF9D6, [0x6DEA]⟩,
  ⟨0xF9D7, 0xF9D7, [0x8F2A]⟩, ⟨0xF9D8, 0xF9D8, [0x5F8B]⟩, ⟨0xF9D9, 0xF9D9, [0x6144]⟩,
  ⟨0xF9DA, 0xF9DA, [0x6817]⟩, ⟨0xF9DB, 0xF9DB, [0x7387]⟩, ⟨0xF9DC, 0xF9DC, [0x9686]⟩,
  ⟨0xF9DD, 0xF9DD, [0x5229]⟩, ⟨0xF9DE, 0xF9DE, [0x540F]⟩, ⟨0xF9DF, 0xF9DF, [0x5C65]⟩,
  ⟨0xF9E0, 0xF9E0, [0x6613]⟩, ⟨0xF9E1, 0xF9E1, [0x674E]⟩, ⟨0xF9E2, 0xF9E2, [0x68A8]⟩,
  ⟨0xF9E3, 0xF9E3, [0x6CE5]⟩, ⟨0xF9E4, 0xF9E4, [0x7406]⟩, ⟨0xF9E5, 0xF9E5, [0x75E2]⟩,
  ⟨0xF9E6, 0xF9E6, [0x7F79]⟩, ⟨0xF9E7, 0xF9E7, [0x88CF]⟩, ⟨0xF9E8, 0xF9E8, [0x88E1]⟩,
  ⟨0xF9E9, 0xF9E9, [0x91CC]⟩, ⟨0xF9EA, 0xF9EA, [0x96E2]⟩, ⟨0xF9EB, 0xF9EB, [0x533F]⟩,
  ⟨0xF9EC, 0xF9EC, [0x6EBA]⟩, ⟨0xF9ED, 0xF9ED, [0x541D]⟩, ⟨0xF9EE, 0xF9EE, [0x71D0]⟩,
  ⟨0xF9EF, 0xF9EF, [0x7498]⟩, ⟨0xF9F0, 0xF9F0, [0x85FA]⟩, ⟨0xF9F1, 0xF9F1, [0x96A3]⟩,
  ⟨0xF9F2, 0xF9F2, [0x9C57]⟩, ⟨0xF9F3, 0xF9F3, [0x9E9F]⟩, ⟨0xF9F4, 0xF9F4, [0x6797]⟩,
  ⟨0xF9F5, 0xF9F5, [0x6DCB]⟩, ⟨0xF9F6, 0xF9F6, [0x81E8]⟩, ⟨0xF9F7, 0xF9F7, [0x7ACB]⟩,
  ⟨0xF9F8, 0xF9F8, [0x7B20]⟩, ⟨0xF9F9, 0xF9F9, [0x7C92]⟩, ⟨0xF9FA, 0xF9FA, [0x72C0]⟩,
  ⟨0xF9FB, 0xF9FB, [0x7099]⟩, ⟨0xF9FC, 0xF9FC, [0x8B58]⟩, ⟨0xF9FD, 0xF9FD, [0x4EC0]⟩]

/-- Decompositions from F9FE to FB38. -/
def fromF9FE : List Mapping := [
  ⟨0xF9FE, 0xF9FE, [0x8336]⟩, ⟨0xF9FF, 0xF9FF, [0x523A]⟩, ⟨0xFA00, 0xFA00, [0x5207]⟩,
  ⟨0xFA01, 0xFA01, [0x5EA6]⟩, ⟨0xFA02, 0xFA02, [0x62D3]⟩, ⟨0xFA03, 0xFA03, [0x7CD6]⟩,
  ⟨0xFA04, 0xFA04, [0x5B85]⟩, ⟨0xFA05, 0xFA05, [0x6D1E]⟩, ⟨0xFA06, 0xFA06, [0x66B4]⟩,
  ⟨0xFA07, 0xFA07, [0x8F3B]⟩, ⟨0xFA08, 0xFA08, [0x884C]⟩, ⟨0xFA09, 0xFA09, [0x964D]⟩,
  ⟨0xFA0A, 0xFA0A, [0x898B]⟩, ⟨0xFA0B, 0xFA0B, [0x5ED3]⟩, ⟨0xFA0C, 0xFA0C, [0x5140]⟩,
  ⟨0xFA0D, 0xFA0D, [0x55C0]⟩, ⟨0xFA10, 0xFA10, [0x585A]⟩, ⟨0xFA12, 0xFA12, [0x6674]⟩,
  ⟨0xFA15, 0xFA15, [0x51DE]⟩, ⟨0xFA16, 0xFA16, [0x732A]⟩, ⟨0xFA17, 0xFA17, [0x76CA]⟩,
  ⟨0xFA18, 0xFA18, [0x793C]⟩, ⟨0xFA19, 0xFA19, [0x795E]⟩, ⟨0xFA1A, 0xFA1A, [0x7965]⟩,
  ⟨0xFA1B, 0xFA1B, [0x798F]⟩, ⟨0xFA1C, 0xFA1C, [0x9756]⟩, ⟨0xFA1D, 0xFA1D, [0x7CBE]⟩,
  ⟨0xFA1E, 0xFA1E, [0x7FBD]⟩, ⟨0xFA20, 0xFA20, [0x8612]⟩, ⟨0xFA22, 0xFA22, [0x8AF8]⟩,
  ⟨0xFA25, 0xFA25, [0x9038]⟩, ⟨0xFA26, 0xFA26, [0x90FD]⟩, ⟨0xFA2A, 0xFA2A, [0x98EF]⟩,
  ⟨0xFA2B, 0xFA2B, [0x98FC]⟩, ⟨0xFA2C, 0xFA2C, [0x9928]⟩, ⟨0xFA2D, 0xFA2D, [0x9DB4]⟩,
  ⟨0xFA2E, 0xFA2E, [0x90DE]⟩, ⟨0xFA2F, 0xFA2F, [0x96B7]⟩, ⟨0xFA30, 0xFA30, [0x4FAE]⟩,
  ⟨0xFA31, 0xFA31, [0x50E7]⟩, ⟨0xFA32, 0xFA32, [0x514D]⟩, ⟨0xFA33, 0xFA33, [0x52C9]⟩,
  ⟨0xFA34, 0xFA34, [0x52E4]⟩, ⟨0xFA35, 0xFA35, [0x5351]⟩, ⟨0xFA36, 0xFA36, [0x559D]⟩,
  ⟨0xFA37, 0xFA37, [0x5606]⟩, ⟨0xFA38, 0xFA38, [0x5668]⟩, ⟨0xFA39, 0xFA39, [0x5840]⟩,
  ⟨0xFA3A, 0xFA3A, [0x58A8]⟩, ⟨0xFA3B, 0xFA3B, [0x5C64]⟩, ⟨0xFA3C, 0xFA3C, [0x5C6E]⟩,
  ⟨0xFA3D, 0xFA3D, [0x6094]⟩, ⟨0xFA3E, 0xFA3E, [0x6168]⟩, ⟨0xFA3F, 0xFA3F, [0x618E]⟩,
  ⟨0xFA40, 0xFA40, [0x61F2]⟩, ⟨0xFA41, 0xFA41, [0x654F]⟩, ⟨0xFA42, 0xFA42, [0x65E2]⟩,
  ⟨0xFA43, 0xFA43, [0x6691]⟩, ⟨0xFA44, 0xFA44, [0x6885]⟩, ⟨0xFA45, 0xFA45, [0x6D77]⟩,
  ⟨0xFA46, 0xFA46, [0x6E1A]⟩, ⟨0xFA47, 0xFA47, [0x6F22]⟩, ⟨0xFA48, 0xFA48, [0x716E]⟩,
  ⟨0xFA49, 0xFA49, [0x722B]⟩, ⟨0xFA4A, 0xFA4A, [0x7422]⟩, ⟨0xFA4B, 0xFA4B, [0x7891]⟩,
  ⟨0xFA4C, 0xFA4C, [0x793E]⟩, ⟨0xFA4D, 0xFA4D, [0x7949]⟩, ⟨0xFA4E, 0xFA4E, [0x7948]⟩,
  ⟨0xFA4F, 0xFA4F, [0x7950]⟩, ⟨0xFA50, 0xFA50, [0x7956]⟩, ⟨0xFA51, 0xFA51, [0x795D]⟩,
  ⟨0xFA52, 0xFA53, [0x798D]⟩, ⟨0xFA54, 0xFA54, [0x7A40]⟩, ⟨0xFA55, 0xFA55, [0x7A81]⟩,
  ⟨0xFA56, 0xFA56, [0x7BC0]⟩, ⟨0xFA57, 0xFA57, [0x7DF4]⟩, ⟨0xFA58, 0xFA58, [0x7E09]⟩,
  ⟨0xFA59, 0xFA59, [0x7E41]⟩, ⟨0xFA5A, 0xFA5A, [0x7F72]⟩, ⟨0xFA5B, 0xFA5B, [0x8005]⟩,
  ⟨0xFA5C, 0xFA5C, [0x81ED]⟩, ⟨0xFA5D, 0xFA5D, [0x8279]⟩, ⟨0xFA5E, 0xFA5E, [0x8279]⟩,
  ⟨0xFA5F, 0xFA5F, [0x8457]⟩, ⟨0xFA60, 0xFA60, [0x8910]⟩, ⟨0xFA61, 0xFA61, [0x8996]⟩,
  ⟨0xFA62, 0xFA62, [0x8B01]⟩, ⟨0xFA63, 0xFA63, [0x8B39]⟩, ⟨0xFA64, 0xFA64, [0x8CD3]⟩,
  ⟨0xFA65, 0xFA65, [0x8D08]⟩, ⟨0xFA66, 0xFA66, [0x8FB6]⟩, ⟨0xFA67, 0xFA67, [0x9038]⟩,
  ⟨0xFA68, 0xFA68, [0x96E3]⟩, ⟨0xFA69, 0xFA69, [0x97FF]⟩, ⟨0xFA6A, 0xFA6A, [0x983B]⟩,
  ⟨0xFA6B, 0xFA6B, [0x6075]⟩, ⟨0xFA6C, 0xFA6C, [0x242EE]⟩, ⟨0xFA6D, 0xFA6D, [0x8218]⟩,
  ⟨0xFA70, 0xFA70, [0x4E26]⟩, ⟨0xFA71, 0xFA71, [0x51B5]⟩, ⟨0xFA72, 0xFA72, [0x5168]⟩,
  ⟨0xFA73, 0xFA73, [0x4F80]⟩, ⟨0xFA74, 0xFA74, [0x5145]⟩, ⟨0xFA75, 0xFA75, [0x5180]⟩,
  ⟨0xFA76, 0xFA76, [0x52C7]⟩, ⟨0xFA77, 0xFA77, [0x52FA]⟩, ⟨0xFA78, 0xFA78, [0x559D]⟩,
  ⟨0xFA79, 0xFA79, [0x5555]⟩, ⟨0xFA7A, 0xFA7A, [0x5599]⟩, ⟨0xFA7B, 0xFA7B, [0x55E2]⟩,
  ⟨0xFA7C, 0xFA7C, [0x585A]⟩, ⟨0xFA7D, 0xFA7D, [0x58B3]⟩, ⟨0xFA7E, 0xFA7E, [0x5944]⟩,
  ⟨0xFA7F, 0xFA7F, [0x5954]⟩, ⟨0xFA80, 0xFA80, [0x5A62]⟩, ⟨0xFA81, 0xFA81, [0x5B28]⟩,
  ⟨0xFA82, 0xFA82, [0x5ED2]⟩, ⟨0xFA83, 0xFA83, [0x5ED9]⟩, ⟨0xFA84, 0xFA84, [0x5F69]⟩,
  ⟨0xFA85, 0xFA85, [0x5FAD]⟩, ⟨0xFA86, 0xFA86, [0x60D8]⟩, ⟨0xFA87, 0xFA87, [0x614E]⟩,
  ⟨0xFA88, 0xFA88, [0x6108]⟩, ⟨0xFA89, 0xFA89, [0x618E]⟩, ⟨0xFA8A, 0xFA8A, [0x6160]⟩,
  ⟨0xFA8B, 0xFA8B, [0x61F2]⟩, ⟨0xFA8C, 0xFA8C, [0x6234]⟩, ⟨0xFA8D, 0xFA8D, [0x63C4]⟩,
  ⟨0xFA8E, 0xFA8E, [0x641C]⟩, ⟨0xFA8F, 0xFA8F, [0x6452]⟩, ⟨0xFA90, 0xFA90, [0x6556]⟩,
  ⟨0xFA91, 0xFA91, [0x6674]⟩, ⟨0xFA92, 0xFA92, [0x6717]⟩, ⟨0xFA93, 0xFA93, [0x671B]⟩,
  ⟨0xFA94, 0xFA94, [0x6756]⟩, ⟨0xFA95, 0xFA95, [0x6B79]⟩, ⟨0xFA96, 0xFA96, [0x6BBA]⟩,
  ⟨0xFA97, 0xFA97, [0x6D41]⟩, ⟨0xFA98, 0xFA98, [0x6EDB]⟩, ⟨0xFA99, 0xFA99, [0x6ECB]⟩,
  ⟨0xFA9A, 0xFA9A, [0x6F22]⟩, ⟨0xFA9B, 0xFA9B, [0x701E]⟩, ⟨0xFA9C, 0xFA9C, [0x716E]⟩,
  ⟨0xFA9D, 0xFA9D, [0x77A7]⟩, ⟨0xFA9E, 0xFA9E, [0x7235]⟩, ⟨0xFA9F, 0xFA9F, [0x72AF]⟩,
  ⟨0xFAA0, 0xFAA0, [0x732A]⟩, ⟨0xFAA1, 0xFAA1, [0x7471]⟩, ⟨0xFAA2, 0xFAA2, [0x7506]⟩,
  ⟨0xFAA3, 0xFAA3, [0x753B]⟩, ⟨0xFAA4, 0xFAA4, [0x761D]⟩, ⟨0xFAA5, 0xFAA5, [0x761F]⟩,
  ⟨0xFAA6, 0xFAA6, [0x76CA]⟩, ⟨0xFAA7, 0xFAA7, [0x76DB]⟩, ⟨0xFAA8, 0xFAA8, [0x76F4]⟩,
  ⟨0xFAA9, 0xFAA9, [0x774A]⟩, ⟨0xFAAA, 0xFAAA, [0x7740]⟩, ⟨0xFAAB, 0xFAAB, [0x78CC]⟩,
  ⟨0xFAAC, 0xFAAC, [0x7AB1]⟩, ⟨0xFAAD, 0xFAAD, [0x7BC0]⟩, ⟨0xFAAE, 0xFAAE, [0x7C7B]⟩,
  ⟨0xFAAF, 0xFAAF, [0x7D5B]⟩, ⟨0xFAB0, 0xFAB0, [0x7DF4]⟩, ⟨0xFAB1, 0xFAB1, [0x7F3E]⟩,
  ⟨0xFAB2, 0xFAB2, [0x8005]⟩, ⟨0xFAB3, 0xFAB3, [0x8352]⟩, ⟨0xFAB4, 0xFAB4, [0x83EF]⟩,
  ⟨0xFAB5, 0xFAB5, [0x8779]⟩, ⟨0xFAB6, 0xFAB6, [0x8941]⟩, ⟨0xFAB7, 0xFAB7, [0x8986]⟩,
  ⟨0xFAB8, 0xFAB8, [0x8996]⟩, ⟨0xFAB9, 0xFAB9, [0x8ABF]⟩, ⟨0xFABA, 0xFABA, [0x8AF8]⟩,
  ⟨0xFABB, 0xFABB, [0x8ACB]⟩, ⟨0xFABC, 0xFABC, [0x8B01]⟩, ⟨0xFABD, 0xFABD, [0x8AFE]⟩,
  ⟨0xFABE, 0xFABE, [0x8AED]⟩, ⟨0xFABF, 0xFABF, [0x8B39]⟩, ⟨0xFAC0, 0xFAC0, [0x8B8A]⟩,
  ⟨0xFAC1, 0xFAC1, [0x8D08]⟩, ⟨0xFAC2, 0xFAC2, [0x8F38]⟩, ⟨0xFAC3, 0xFAC3, [0x9072]⟩,
  ⟨0xFAC4, 0xFAC4, [0x9199]⟩, ⟨0xFAC5, 0xFAC5, [0x9276]⟩, ⟨0xFAC6, 0xFAC6, [0x967C]⟩,
  ⟨0xFAC7, 0xFAC7, [0x96E3]⟩, ⟨0xFAC8, 0xFAC8, [0x9756]⟩, ⟨0xFAC9, 0xFAC9, [0x97DB]⟩,
  ⟨0xFACA, 0xFACA, [0x97FF]⟩, ⟨0xFACB, 0xFACB, [0x980B]⟩, ⟨0xFACC, 0xFACC, [0x983B]⟩,
  ⟨0xFACD, 0xFACD, [0x9B12]⟩, ⟨0xFACE, 0xFACE, [0x9F9C]⟩, ⟨0xFACF, 0xFACF, [0x2284A]⟩,
  ⟨0xFAD0, 0xFAD0, [0x22844]⟩, ⟨0xFAD1, 0xFAD1, [0x233D5]⟩, ⟨0xFAD2, 0xFAD2, [0x3B9D]⟩,
  ⟨0xFAD3, 0xFAD3, [0x4018]⟩, ⟨0xFAD4, 0xFAD4, [0x4039]⟩, ⟨0xFAD5, 0xFAD5, [0x25249]⟩,
  ⟨0xFAD6, 0xFAD6, [0x25CD0]⟩, ⟨0xFAD7, 0xFAD7, [0x27ED3]⟩, ⟨0xFAD8, 0xFAD8, [0x9F43]⟩,
  ⟨0xFAD9, 0xFAD9, [0x9F8E]⟩, ⟨0xFB00, 0xFB00, [0x0066, 0x0066]⟩,
  ⟨0xFB01, 0xFB01, [0x0066, 0x0069]⟩, ⟨0xFB02, 0xFB02, [0x0066, 0x006C]⟩,
  ⟨0xFB03, 0xFB03, [0x0066, 0x0066, 0x0069]⟩, ⟨0xFB04, 0xFB04, [0x0066, 0x0066, 0x006C]⟩,
  ⟨0xFB05, 0xFB05, [0x0073, 0x0074]⟩, ⟨0xFB06, 0xFB06, [0x0073, 0x0074]⟩,
  ⟨0xFB13, 0xFB13, [0x0574, 0x0576]⟩, ⟨0xFB14, 0xFB14, [0x0574, 0x0565]⟩,
  ⟨0xFB15, 0xFB15, [0x0574, 0x056B]⟩, ⟨0xFB16, 0xFB16, [0x057E, 0x0576]⟩,
  ⟨0xFB17, 0xFB17, [0x0574, 0x056D]⟩, ⟨0xFB1D, 0xFB1D, [0x05D9, 0x05B4]⟩,
  ⟨0xFB1F, 0xFB1F, [0x05F2, 0x05B7]⟩, ⟨0xFB20, 0xFB20, [0x05E2]⟩, ⟨0xFB21, 0xFB21, [0x05D0]⟩,
  ⟨0xFB22, 0xFB23, [0x05D3]⟩, ⟨0xFB24, 0xFB26, [0x05DB]⟩, ⟨0xFB27, 0xFB27, [0x05E8]⟩,
  ⟨0xFB28, 0xFB28, [0x05EA]⟩, ⟨0xFB29, 0xFB29, [0x002B]⟩, ⟨0xFB2A, 0xFB2A, [0x05E9, 0x05C1]⟩,
  ⟨0xFB2B, 0xFB2B, [0x05E9, 0x05C2]⟩, ⟨0xFB2C, 0xFB2C, [0x05E9, 0x05BC, 0x05C1]⟩,
  ⟨0xFB2D, 0xFB2D, [0x05E9, 0x05BC, 0x05C2]⟩, ⟨0xFB2E, 0xFB2E, [0x05D0, 0x05B7]⟩,
  ⟨0xFB2F, 0xFB2F, [0x05D0, 0x05B8]⟩, ⟨0xFB30, 0xFB30, [0x05D0, 0x05BC]⟩,
  ⟨0xFB31, 0xFB31, [0x05D1, 0x05BC]⟩, ⟨0xFB32, 0xFB32, [0x05D2, 0x05BC]⟩,
  ⟨0xFB33, 0xFB33, [0x05D3, 0x05BC]⟩, ⟨0xFB34, 0xFB34, [0x05D4, 0x05BC]⟩,
  ⟨0xFB35, 0xFB35, [0x05D5, 0x05BC]⟩, ⟨0xFB36, 0xFB36, [0x05D6, 0x05BC]⟩,
  ⟨0xFB38, 0xFB38, [0x05D8, 0x05BC]⟩]

end Decompositions
end Text
end Reckoner
