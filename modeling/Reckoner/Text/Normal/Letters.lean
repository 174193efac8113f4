/-
# Compatibility decompositions: letters

The compatibility decompositions of Unicode 14.0 below the ideographs: letters with marks,
presentation signs and symbols.
-/

import Reckoner.Text.Normal.Mapping

namespace Reckoner
namespace Text
namespace Decompositions

/-- Decompositions from 00A0 to 0200. -/
def from00A0 : List Mapping := [
  ⟨0x00A0, 0x00A0, [0x0020]⟩, ⟨0x00A8, 0x00A8, [0x0020, 0x0308]⟩, ⟨0x00AA, 0x00AA, [0x0061]⟩,
  ⟨0x00AF, 0x00AF, [0x0020, 0x0304]⟩, ⟨0x00B2, 0x00B3, [0x0032]⟩,
  ⟨0x00B4, 0x00B4, [0x0020, 0x0301]⟩, ⟨0x00B5, 0x00B5, [0x03BC]⟩,
  ⟨0x00B8, 0x00B8, [0x0020, 0x0327]⟩, ⟨0x00B9, 0x00B9, [0x0031]⟩, ⟨0x00BA, 0x00BA, [0x006F]⟩,
  ⟨0x00BC, 0x00BC, [0x0031, 0x2044, 0x0034]⟩, ⟨0x00BD, 0x00BD, [0x0031, 0x2044, 0x0032]⟩,
  ⟨0x00BE, 0x00BE, [0x0033, 0x2044, 0x0034]⟩, ⟨0x00C0, 0x00C0, [0x0041, 0x0300]⟩,
  ⟨0x00C1, 0x00C1, [0x0041, 0x0301]⟩, ⟨0x00C2, 0x00C2, [0x0041, 0x0302]⟩,
  ⟨0x00C3, 0x00C3, [0x0041, 0x0303]⟩, ⟨0x00C4, 0x00C4, [0x0041, 0x0308]⟩,
  ⟨0x00C5, 0x00C5, [0x0041, 0x030A]⟩, ⟨0x00C7, 0x00C7, [0x0043, 0x0327]⟩,
  ⟨0x00C8, 0x00C8, [0x0045, 0x0300]⟩, ⟨0x00C9, 0x00C9, [0x0045, 0x0301]⟩,
  ⟨0x00CA, 0x00CA, [0x0045, 0x0302]⟩, ⟨0x00CB, 0x00CB, [0x0045, 0x0308]⟩,
  ⟨0x00CC, 0x00CC, [0x0049, 0x0300]⟩, ⟨0x00CD, 0x00CD, [0x0049, 0x0301]⟩,
  ⟨0x00CE, 0x00CE, [0x0049, 0x0302]⟩, ⟨0x00CF, 0x00CF, [0x0049, 0x0308]⟩,
  ⟨0x00D1, 0x00D1, [0x004E, 0x0303]⟩, ⟨0x00D2, 0x00D2, [0x004F, 0x0300]⟩,
  ⟨0x00D3, 0x00D3, [0x004F, 0x0301]⟩, ⟨0x00D4, 0x00D4, [0x004F, 0x0302]⟩,
  ⟨0x00D5, 0x00D5, [0x004F, 0x0303]⟩, ⟨0x00D6, 0x00D6, [0x004F, 0x0308]⟩,
  ⟨0x00D9, 0x00D9, [0x0055, 0x0300]⟩, ⟨0x00DA, 0x00DA, [0x0055, 0x0301]⟩,
  ⟨0x00DB, 0x00DB, [0x0055, 0x0302]⟩, ⟨0x00DC, 0x00DC, [0x0055, 0x0308]⟩,
  ⟨0x00DD, 0x00DD, [0x0059, 0x0301]⟩, ⟨0x00E0, 0x00E0, [0x0061, 0x0300]⟩,
  ⟨0x00E1, 0x00E1, [0x0061, 0x0301]⟩, ⟨0x00E2, 0x00E2, [0x0061, 0x0302]⟩,
  ⟨0x00E3, 0x00E3, [0x0061, 0x0303]⟩, ⟨0x00E4, 0x00E4, [0x0061, 0x0308]⟩,
  ⟨0x00E5, 0x00E5, [0x0061, 0x030A]⟩, ⟨0x00E7, 0x00E7, [0x0063, 0x0327]⟩,
  ⟨0x00E8, 0x00E8, [0x0065, 0x0300]⟩, ⟨0x00E9, 0x00E9, [0x0065, 0x0301]⟩,
  ⟨0x00EA, 0x00EA, [0x0065, 0x0302]⟩, ⟨0x00EB, 0x00EB, [0x0065, 0x0308]⟩,
  ⟨0x00EC, 0x00EC, [0x0069, 0x0300]⟩, ⟨0x00ED, 0x00ED, [0x0069, 0x0301]⟩,
  ⟨0x00EE, 0x00EE, [0x0069, 0x0302]⟩, ⟨0x00EF, 0x00EF, [0x0069, 0x0308]⟩,
  ⟨0x00F1, 0x00F1, [0x006E, 0x0303]⟩, ⟨0x00F2, 0x00F2, [0x006F, 0x0300]⟩,
  ⟨0x00F3, 0x00F3, [0x006F, 0x0301]⟩, ⟨0x00F4, 0x00F4, [0x006F, 0x0302]⟩,
  ⟨0x00F5, 0x00F5, [0x006F, 0x0303]⟩, ⟨0x00F6, 0x00F6, [0x006F, 0x0308]⟩,
  ⟨0x00F9, 0x00F9, [0x0075, 0x0300]⟩, ⟨0x00FA, 0x00FA, [0x0075, 0x0301]⟩,
  ⟨0x00FB, 0x00FB, [0x0075, 0x0302]⟩, ⟨0x00FC, 0x00FC, [0x0075, 0x0308]⟩,
  ⟨0x00FD, 0x00FD, [0x0079, 0x0301]⟩, ⟨0x00FF, 0x00FF, [0x0079, 0x0308]⟩,
  ⟨0x0100, 0x0100, [0x0041, 0x0304]⟩, ⟨0x0101, 0x0101, [0x0061, 0x0304]⟩,
  ⟨0x0102, 0x0102, [0x0041, 0x0306]⟩, ⟨0x0103, 0x0103, [0x0061, 0x0306]⟩,
  ⟨0x0104, 0x0104, [0x0041, 0x0328]⟩, ⟨0x0105, 0x0105, [0x0061, 0x0328]⟩,
  ⟨0x0106, 0x0106, [0x0043, 0x0301]⟩, ⟨0x0107, 0x0107, [0x0063, 0x0301]⟩,
  ⟨0x0108, 0x0108, [0x0043, 0x0302]⟩, ⟨0x0109, 0x0109, [0x0063, 0x0302]⟩,
  ⟨0x010A, 0x010A, [0x0043, 0x0307]⟩, ⟨0x010B, 0x010B, [0x0063, 0x0307]⟩,
  ⟨0x010C, 0x010C, [0x0043, 0x030C]⟩, ⟨0x010D, 0x010D, [0x0063, 0x030C]⟩,
  ⟨0x010E, 0x010E, [0x0044, 0x030C]⟩, ⟨0x010F, 0x010F, [0x0064, 0x030C]⟩,
  ⟨0x0112, 0x0112, [0x0045, 0x0304]⟩, ⟨0x0113, 0x0113, [0x0065, 0x0304]⟩,
  ⟨0x0114, 0x0114, [0x0045, 0x0306]⟩, ⟨0x0115, 0x0115, [0x0065, 0x0306]⟩,
  ⟨0x0116, 0x0116, [0x0045, 0x0307]⟩, ⟨0x0117, 0x0117, [0x0065, 0x0307]⟩,
  ⟨0x0118, 0x0118, [0x0045, 0x0328]⟩, ⟨0x0119, 0x0119, [0x0065, 0x0328]⟩,
  ⟨0x011A, 0x011A, [0x0045, 0x030C]⟩, ⟨0x011B, 0x011B, [0x0065, 0x030C]⟩,
  ⟨0x011C, 0x011C, [0x0047, 0x0302]⟩, ⟨0x011D, 0x011D, [0x0067, 0x0302]⟩,
  ⟨0x011E, 0x011E, [0x0047, 0x0306]⟩, ⟨0x011F, 0x011F, [0x0067, 0x0306]⟩,
  ⟨0x0120, 0x0120, [0x0047, 0x0307]⟩, ⟨0x0121, 0x0121, [0x0067, 0x0307]⟩,
  ⟨0x0122, 0x0122, [0x0047, 0x0327]⟩, ⟨0x0123, 0x0123, [0x0067, 0x0327]⟩,
  ⟨0x0124, 0x0124, [0x0048, 0x0302]⟩, ⟨0x0125, 0x0125, [0x0068, 0x0302]⟩,
  ⟨0x0128, 0x0128, [0x0049, 0x0303]⟩, ⟨0x0129, 0x0129, [0x0069, 0x0303]⟩,
  ⟨0x012A, 0x012A, [0x0049, 0x0304]⟩, ⟨0x012B, 0x012B, [0x0069, 0x0304]⟩,
  ⟨0x012C, 0x012C, [0x0049, 0x0306]⟩, ⟨0x012D, 0x012D, [0x0069, 0x0306]⟩,
  ⟨0x012E, 0x012E, [0x0049, 0x0328]⟩, ⟨0x012F, 0x012F, [0x0069, 0x0328]⟩,
  ⟨0x0130, 0x0130, [0x0049, 0x0307]⟩, ⟨0x0132, 0x0132, [0x0049, 0x004A]⟩,
  ⟨0x0133, 0x0133, [0x0069, 0x006A]⟩, ⟨0x0134, 0x0134, [0x004A, 0x0302]⟩,
  ⟨0x0135, 0x0135, [0x006A, 0x0302]⟩, ⟨0x0136, 0x0136, [0x004B, 0x0327]⟩,
  ⟨0x0137, 0x0137, [0x006B, 0x0327]⟩, ⟨0x0139, 0x0139, [0x004C, 0x0301]⟩,
  ⟨0x013A, 0x013A, [0x006C, 0x0301]⟩, ⟨0x013B, 0x013B, [0x004C, 0x0327]⟩,
  ⟨0x013C, 0x013C, [0x006C, 0x0327]⟩, ⟨0x013D, 0x013D, [0x004C, 0x030C]⟩,
  ⟨0x013E, 0x013E, [0x006C, 0x030C]⟩, ⟨0x013F, 0x013F, [0x004C, 0x00B7]⟩,
  ⟨0x0140, 0x0140, [0x006C, 0x00B7]⟩, ⟨0x0143, 0x0143, [0x004E, 0x0301]⟩,
  ⟨0x0144, 0x0144, [0x006E, 0x0301]⟩, ⟨0x0145, 0x0145, [0x004E, 0x0327]⟩,
  ⟨0x0146, 0x0146, [0x006E, 0x0327]⟩, ⟨0x0147, 0x0147, [0x004E, 0x030C]⟩,
  ⟨0x0148, 0x0148, [0x006E, 0x030C]⟩, ⟨0x0149, 0x0149, [0x02BC, 0x006E]⟩,
  ⟨0x014C, 0x014C, [0x004F, 0x0304]⟩, ⟨0x014D, 0x014D, [0x006F, 0x0304]⟩,
  ⟨0x014E, 0x014E, [0x004F, 0x0306]⟩, ⟨0x014F, 0x014F, [0x006F, 0x0306]⟩,
  ⟨0x0150, 0x0150, [0x004F, 0x030B]⟩, ⟨0x0151, 0x0151, [0x006F, 0x030B]⟩,
  ⟨0x0154, 0x0154, [0x0052, 0x0301]⟩, ⟨0x0155, 0x0155, [0x0072, 0x0301]⟩,
  ⟨0x0156, 0x0156, [0x0052, 0x0327]⟩, ⟨0x0157, 0x0157, [0x0072, 0x0327]⟩,
  ⟨0x0158, 0x0158, [0x0052, 0x030C]⟩, ⟨0x0159, 0x0159, [0x0072, 0x030C]⟩,
  ⟨0x015A, 0x015A, [0x0053, 0x0301]⟩, ⟨0x015B, 0x015B, [0x0073, 0x0301]⟩,
  ⟨0x015C, 0x015C, [0x0053, 0x0302]⟩, ⟨0x015D, 0x015D, [0x0073, 0x0302]⟩,
  ⟨0x015E, 0x015E, [0x0053, 0x0327]⟩, ⟨0x015F, 0x015F, [0x0073, 0x0327]⟩,
  ⟨0x0160, 0x0160, [0x0053, 0x030C]⟩, ⟨0x0161, 0x0161, [0x0073, 0x030C]⟩,
  ⟨0x0162, 0x0162, [0x0054, 0x0327]⟩, ⟨0x0163, 0x0163, [0x0074, 0x0327]⟩,
  ⟨0x0164, 0x0164, [0x0054, 0x030C]⟩, ⟨0x0165, 0x0165, [0x0074, 0x030C]⟩,
  ⟨0x0168, 0x0168, [0x0055, 0x0303]⟩, ⟨0x0169, 0x0169, [0x0075, 0x0303]⟩,
  ⟨0x016A, 0x016A, [0x0055, 0x0304]⟩, ⟨0x016B, 0x016B, [0x0075, 0x0304]⟩,
  ⟨0x016C, 0x016C, [0x0055, 0x0306]⟩, ⟨0x016D, 0x016D, [0x0075, 0x0306]⟩,
  ⟨0x016E, 0x016E, [0x0055, 0x030A]⟩, ⟨0x016F, 0x016F, [0x0075, 0x030A]⟩,
  ⟨0x0170, 0x0170, [0x0055, 0x030B]⟩, ⟨0x0171, 0x0171, [0x0075, 0x030B]⟩,
  ⟨0x0172, 0x0172, [0x0055, 0x0328]⟩, ⟨0x0173, 0x0173, [0x0075, 0x0328]⟩,
  ⟨0x0174, 0x0174, [0x0057, 0x0302]⟩, ⟨0x0175, 0x0175, [0x0077, 0x0302]⟩,
  ⟨0x0176, 0x0176, [0x0059, 0x0302]⟩, ⟨0x0177, 0x0177, [0x0079, 0x0302]⟩,
  ⟨0x0178, 0x0178, [0x0059, 0x0308]⟩, ⟨0x0179, 0x0179, [0x005A, 0x0301]⟩,
  ⟨0x017A, 0x017A, [0x007A, 0x0301]⟩, ⟨0x017B, 0x017B, [0x005A, 0x0307]⟩,
  ⟨0x017C, 0x017C, [0x007A, 0x0307]⟩, ⟨0x017D, 0x017D, [0x005A, 0x030C]⟩,
  ⟨0x017E, 0x017E, [0x007A, 0x030C]⟩, ⟨0x017F, 0x017F, [0x0073]⟩,
  ⟨0x01A0, 0x01A0, [0x004F, 0x031B]⟩, ⟨0x01A1, 0x01A1, [0x006F, 0x031B]⟩,
  ⟨0x01AF, 0x01AF, [0x0055, 0x031B]⟩, ⟨0x01B0, 0x01B0, [0x0075, 0x031B]⟩,
  ⟨0x01C4, 0x01C4, [0x0044, 0x005A, 0x030C]⟩, ⟨0x01C5, 0x01C5, [0x0044, 0x007A, 0x030C]⟩,
  ⟨0x01C6, 0x01C6, [0x0064, 0x007A, 0x030C]⟩, ⟨0x01C7, 0x01C7, [0x004C, 0x004A]⟩,
  ⟨0x01C8, 0x01C8, [0x004C, 0x006A]⟩, ⟨0x01C9, 0x01C9, [0x006C, 0x006A]⟩,
  ⟨0x01CA, 0x01CA, [0x004E, 0x004A]⟩, ⟨0x01CB, 0x01CB, [0x004E, 0x006A]⟩,
  ⟨0x01CC, 0x01CC, [0x006E, 0x006A]⟩, ⟨0x01CD, 0x01CD, [0x0041, 0x030C]⟩,
  ⟨0x01CE, 0x01CE, [0x0061, 0x030C]⟩, ⟨0x01CF, 0x01CF, [0x0049, 0x030C]⟩,
  ⟨0x01D0, 0x01D0, [0x0069, 0x030C]⟩, ⟨0x01D1, 0x01D1, [0x004F, 0x030C]⟩,
  ⟨0x01D2, 0x01D2, [0x006F, 0x030C]⟩, ⟨0x01D3, 0x01D3, [0x0055, 0x030C]⟩,
  ⟨0x01D4, 0x01D4, [0x0075, 0x030C]⟩, ⟨0x01D5, 0x01D5, [0x0055, 0x0308, 0x0304]⟩,
  ⟨0x01D6, 0x01D6, [0x0075, 0x0308, 0x0304]⟩, ⟨0x01D7, 0x01D7, [0x0055, 0x0308, 0x0301]⟩,
  ⟨0x01D8, 0x01D8, [0x0075, 0x0308, 0x0301]⟩, ⟨0x01D9, 0x01D9, [0x0055, 0x0308, 0x030C]⟩,
  ⟨0x01DA, 0x01DA, [0x0075, 0x0308, 0x030C]⟩, ⟨0x01DB, 0x01DB, [0x0055, 0x0308, 0x0300]⟩,
  ⟨0x01DC, 0x01DC, [0x0075, 0x0308, 0x0300]⟩, ⟨0x01DE, 0x01DE, [0x0041, 0x0308, 0x0304]⟩,
  ⟨0x01DF, 0x01DF, [0x0061, 0x0308, 0x0304]⟩, ⟨0x01E0, 0x01E0, [0x0041, 0x0307, 0x0304]⟩,
  ⟨0x01E1, 0x01E1, [0x0061, 0x0307, 0x0304]⟩, ⟨0x01E2, 0x01E2, [0x00C6, 0x0304]⟩,
  ⟨0x01E3, 0x01E3, [0x00E6, 0x0304]⟩, ⟨0x01E6, 0x01E6, [0x0047, 0x030C]⟩,
  ⟨0x01E7, 0x01E7, [0x0067, 0x030C]⟩, ⟨0x01E8, 0x01E8, [0x004B, 0x030C]⟩,
  ⟨0x01E9, 0x01E9, [0x006B, 0x030C]⟩, ⟨0x01EA, 0x01EA, [0x004F, 0x0328]⟩,
  ⟨0x01EB, 0x01EB, [0x006F, 0x0328]⟩, ⟨0x01EC, 0x01EC, [0x004F, 0x0328, 0x0304]⟩,
  ⟨0x01ED, 0x01ED, [0x006F, 0x0328, 0x0304]⟩, ⟨0x01EE, 0x01EE, [0x01B7, 0x030C]⟩,
  ⟨0x01EF, 0x01EF, [0x0292, 0x030C]⟩, ⟨0x01F0, 0x01F0, [0x006A, 0x030C]⟩,
  ⟨0x01F1, 0x01F1, [0x0044, 0x005A]⟩, ⟨0x01F2, 0x01F2, [0x0044, 0x007A]⟩,
  ⟨0x01F3, 0x01F3, [0x0064, 0x007A]⟩, ⟨0x01F4, 0x01F4, [0x0047, 0x0301]⟩,
  ⟨0x01F5, 0x01F5, [0x0067, 0x0301]⟩, ⟨0x01F8, 0x01F8, [0x004E, 0x0300]⟩,
  ⟨0x01F9, 0x01F9, [0x006E, 0x0300]⟩, ⟨0x01FA, 0x01FA, [0x0041, 0x030A, 0x0301]⟩,
  ⟨0x01FB, 0x01FB, [0x0061, 0x030A, 0x0301]⟩, ⟨0x01FC, 0x01FC, [0x00C6, 0x0301]⟩,
  ⟨0x01FD, 0x01FD, [0x00E6, 0x0301]⟩, ⟨0x01FE, 0x01FE, [0x00D8, 0x0301]⟩,
  ⟨0x01FF, 0x01FF, [0x00F8, 0x0301]⟩, ⟨0x0200, 0x0200, [0x0041, 0x030F]⟩]

/-- Decompositions from 0201 to 1B06. -/
def from0201 : List Mapping := [
  ⟨0x0201, 0x0201, [0x0061, 0x030F]⟩, ⟨0x0202, 0x0202, [0x0041, 0x0311]⟩,
  ⟨0x0203, 0x0203, [0x0061, 0x0311]⟩, ⟨0x0204, 0x0204, [0x0045, 0x030F]⟩,
  ⟨0x0205, 0x0205, [0x0065, 0x030F]⟩, ⟨0x0206, 0x0206, [0x0045, 0x0311]⟩,
  ⟨0x0207, 0x0207, [0x0065, 0x0311]⟩, ⟨0x0208, 0x0208, [0x0049, 0x030F]⟩,
  ⟨0x0209, 0x0209, [0x0069, 0x030F]⟩, ⟨0x020A, 0x020A, [0x0049, 0x0311]⟩,
  ⟨0x020B, 0x020B, [0x0069, 0x0311]⟩, ⟨0x020C, 0x020C, [0x004F, 0x030F]⟩,
  ⟨0x020D, 0x020D, [0x006F, 0x030F]⟩, ⟨0x020E, 0x020E, [0x004F, 0x0311]⟩,
  ⟨0x020F, 0x020F, [0x006F, 0x0311]⟩, ⟨0x0210, 0x0210, [0x0052, 0x030F]⟩,
  ⟨0x0211, 0x0211, [0x0072, 0x030F]⟩, ⟨0x0212, 0x0212, [0x0052, 0x0311]⟩,
  ⟨0x0213, 0x0213, [0x0072, 0x0311]⟩, ⟨0x0214, 0x0214, [0x0055, 0x030F]⟩,
  ⟨0x0215, 0x0215, [0x0075, 0x030F]⟩, ⟨0x0216, 0x0216, [0x0055, 0x0311]⟩,
  ⟨0x0217, 0x0217, [0x0075, 0x0311]⟩, ⟨0x0218, 0x0218, [0x0053, 0x0326]⟩,
  ⟨0x0219, 0x0219, [0x0073, 0x0326]⟩, ⟨0x021A, 0x021A, [0x0054, 0x0326]⟩,
  ⟨0x021B, 0x021B, [0x0074, 0x0326]⟩, ⟨0x021E, 0x021E, [0x0048, 0x030C]⟩,
  ⟨0x021F, 0x021F, [0x0068, 0x030C]⟩, ⟨0x0226, 0x0226, [0x0041, 0x0307]⟩,
  ⟨0x0227, 0x0227, [0x0061, 0x0307]⟩, ⟨0x0228, 0x0228, [0x0045, 0x0327]⟩,
  ⟨0x0229, 0x0229, [0x0065, 0x0327]⟩, ⟨0x022A, 0x022A, [0x004F, 0x0308, 0x0304]⟩,
  ⟨0x022B, 0x022B, [0x006F, 0x0308, 0x0304]⟩, ⟨0x022C, 0x022C, [0x004F, 0x0303, 0x0304]⟩,
  ⟨0x022D, 0x022D, [0x006F, 0x0303, 0x0304]⟩, ⟨0x022E, 0x022E, [0x004F, 0x0307]⟩,
  ⟨0x022F, 0x022F, [0x006F, 0x0307]⟩, ⟨0x0230, 0x0230, [0x004F, 0x0307, 0x0304]⟩,
  ⟨0x0231, 0x0231, [0x006F, 0x0307, 0x0304]⟩, ⟨0x0232, 0x0232, [0x0059, 0x0304]⟩,
  ⟨0x0233, 0x0233, [0x0079, 0x0304]⟩, ⟨0x02B0, 0x02B0, [0x0068]⟩, ⟨0x02B1, 0x02B1, [0x0266]⟩,
  ⟨0x02B2, 0x02B2, [0x006A]⟩, ⟨0x02B3, 0x02B3, [0x0072]⟩, ⟨0x02B4, 0x02B4, [0x0279]⟩,
  ⟨0x02B5, 0x02B5, [0x027B]⟩, ⟨0x02B6, 0x02B6, [0x0281]⟩, ⟨0x02B7, 0x02B7, [0x0077]⟩,
  ⟨0x02B8, 0x02B8, [0x0079]⟩, ⟨0x02D8, 0x02D8, [0x0020, 0x0306]⟩,
  ⟨0x02D9, 0x02D9, [0x0020, 0x0307]⟩, ⟨0x02DA, 0x02DA, [0x0020, 0x030A]⟩,
  ⟨0x02DB, 0x02DB, [0x0020, 0x0328]⟩, ⟨0x02DC, 0x02DC, [0x0020, 0x0303]⟩,
  ⟨0x02DD, 0x02DD, [0x0020, 0x030B]⟩, ⟨0x02E0, 0x02E0, [0x0263]⟩, ⟨0x02E1, 0x02E1, [0x006C]⟩,
  ⟨0x02E2, 0x02E2, [0x0073]⟩, ⟨0x02E3, 0x02E3, [0x0078]⟩, ⟨0x02E4, 0x02E4, [0x0295]⟩,
  ⟨0x0340, 0x0341, [0x0300]⟩, ⟨0x0343, 0x0343, [0x0313]⟩, ⟨0x0344, 0x0344, [0x0308, 0x0301]⟩,
  ⟨0x0374, 0x0374, [0x02B9]⟩, ⟨0x037A, 0x037A, [0x0020, 0x0345]⟩, ⟨0x037E, 0x037E, [0x003B]⟩,
  ⟨0x0384, 0x0384, [0x0020, 0x0301]⟩, ⟨0x0385, 0x0385, [0x0020, 0x0308, 0x0301]⟩,
  ⟨0x0386, 0x0386, [0x0391, 0x0301]⟩, ⟨0x0387, 0x0387, [0x00B7]⟩,
  ⟨0x0388, 0x0388, [0x0395, 0x0301]⟩, ⟨0x0389, 0x0389, [0x0397, 0x0301]⟩,
  ⟨0x038A, 0x038A, [0x0399, 0x0301]⟩, ⟨0x038C, 0x038C, [0x039F, 0x0301]⟩,
  ⟨0x038E, 0x038E, [0x03A5, 0x0301]⟩, ⟨0x038F, 0x038F, [0x03A9, 0x0301]⟩,
  ⟨0x0390, 0x0390, [0x03B9, 0x0308, 0x0301]⟩, ⟨0x03AA, 0x03AA, [0x0399, 0x0308]⟩,
  ⟨0x03AB, 0x03AB, [0x03A5, 0x0308]⟩, ⟨0x03AC, 0x03AC, [0x03B1, 0x0301]⟩,
  ⟨0x03AD, 0x03AD, [0x03B5, 0x0301]⟩, ⟨0x03AE, 0x03AE, [0x03B7, 0x0301]⟩,
  ⟨0x03AF, 0x03AF, [0x03B9, 0x0301]⟩, ⟨0x03B0, 0x03B0, [0x03C5, 0x0308, 0x0301]⟩,
  ⟨0x03CA, 0x03CA, [0x03B9, 0x0308]⟩, ⟨0x03CB, 0x03CB, [0x03C5, 0x0308]⟩,
  ⟨0x03CC, 0x03CC, [0x03BF, 0x0301]⟩, ⟨0x03CD, 0x03CD, [0x03C5, 0x0301]⟩,
  ⟨0x03CE, 0x03CE, [0x03C9, 0x0301]⟩, ⟨0x03D0, 0x03D0, [0x03B2]⟩, ⟨0x03D1, 0x03D1, [0x03B8]⟩,
  ⟨0x03D2, 0x03D2, [0x03A5]⟩, ⟨0x03D3, 0x03D3, [0x03A5, 0x0301]⟩,
  ⟨0x03D4, 0x03D4, [0x03A5, 0x0308]⟩, ⟨0x03D5, 0x03D5, [0x03C6]⟩, ⟨0x03D6, 0x03D6, [0x03C0]⟩,
  ⟨0x03F0, 0x03F0, [0x03BA]⟩, ⟨0x03F1, 0x03F2, [0x03C1]⟩, ⟨0x03F4, 0x03F4, [0x0398]⟩,
  ⟨0x03F5, 0x03F5, [0x03B5]⟩, ⟨0x03F9, 0x03F9, [0x03A3]⟩, ⟨0x0400, 0x0400, [0x0415, 0x0300]⟩,
  ⟨0x0401, 0x0401, [0x0415, 0x0308]⟩, ⟨0x0403, 0x0403, [0x0413, 0x0301]⟩,
  ⟨0x0407, 0x0407, [0x0406, 0x0308]⟩, ⟨0x040C, 0x040C, [0x041A, 0x0301]⟩,
  ⟨0x040D, 0x040D, [0x0418, 0x0300]⟩, ⟨0x040E, 0x040E, [0x0423, 0x0306]⟩,
  ⟨0x0419, 0x0419, [0x0418, 0x0306]⟩, ⟨0x0439, 0x0439, [0x0438, 0x0306]⟩,
  ⟨0x0450, 0x0450, [0x0435, 0x0300]⟩, ⟨0x0451, 0x0451, [0x0435, 0x0308]⟩,
  ⟨0x0453, 0x0453, [0x0433, 0x0301]⟩, ⟨0x0457, 0x0457, [0x0456, 0x0308]⟩,
  ⟨0x045C, 0x045C, [0x043A, 0x0301]⟩, ⟨0x045D, 0x045D, [0x0438, 0x0300]⟩,
  ⟨0x045E, 0x045E, [0x0443, 0x0306]⟩, ⟨0x0476, 0x0476, [0x0474, 0x030F]⟩,
  ⟨0x0477, 0x0477, [0x0475, 0x030F]⟩, ⟨0x04C1, 0x04C1, [0x0416, 0x0306]⟩,
  ⟨0x04C2, 0x04C2, [0x0436, 0x0306]⟩, ⟨0x04D0, 0x04D0, [0x0410, 0x0306]⟩,
  ⟨0x04D1, 0x04D1, [0x0430, 0x0306]⟩, ⟨0x04D2, 0x04D2, [0x0410, 0x0308]⟩,
  ⟨0x04D3, 0x04D3, [0x0430, 0x0308]⟩, ⟨0x04D6, 0x04D6, [0x0415, 0x0306]⟩,
  ⟨0x04D7, 0x04D7, [0x0435, 0x0306]⟩, ⟨0x04DA, 0x04DA, [0x04D8, 0x0308]⟩,
  ⟨0x04DB, 0x04DB, [0x04D9, 0x0308]⟩, ⟨0x04DC, 0x04DC, [0x0416, 0x0308]⟩,
  ⟨0x04DD, 0x04DD, [0x0436, 0x0308]⟩, ⟨0x04DE, 0x04DE, [0x0417, 0x0308]⟩,
  ⟨0x04DF, 0x04DF, [0x0437, 0x0308]⟩, ⟨0x04E2, 0x04E2, [0x0418, 0x0304]⟩,
  ⟨0x04E3, 0x04E3, [0x0438, 0x0304]⟩, ⟨0x04E4, 0x04E4, [0x0418, 0x0308]⟩,
  ⟨0x04E5, 0x04E5, [0x0438, 0x0308]⟩, ⟨0x04E6, 0x04E6, [0x041E, 0x0308]⟩,
  ⟨0x04E7, 0x04E7, [0x043E, 0x0308]⟩, ⟨0x04EA, 0x04EA, [0x04E8, 0x0308]⟩,
  ⟨0x04EB, 0x04EB, [0x04E9, 0x0308]⟩, ⟨0x04EC, 0x04EC, [0x042D, 0x0308]⟩,
  ⟨0x04ED, 0x04ED, [0x044D, 0x0308]⟩, ⟨0x04EE, 0x04EE, [0x0423, 0x0304]⟩,
  ⟨0x04EF, 0x04EF, [0x0443, 0x0304]⟩, ⟨0x04F0, 0x04F0, [0x0423, 0x0308]⟩,
  ⟨0x04F1, 0x04F1, [0x0443, 0x0308]⟩, ⟨0x04F2, 0x04F2, [0x0423, 0x030B]⟩,
  ⟨0x04F3, 0x04F3, [0x0443, 0x030B]⟩, ⟨0x04F4, 0x04F4, [0x0427, 0x0308]⟩,
  ⟨0x04F5, 0x04F5, [0x0447, 0x0308]⟩, ⟨0x04F8, 0x04F8, [0x042B, 0x0308]⟩,
  ⟨0x04F9, 0x04F9, [0x044B, 0x0308]⟩, ⟨0x0587, 0x0587, [0x0565, 0x0582]⟩,
  ⟨0x0622, 0x0622, [0x0627, 0x0653]⟩, ⟨0x0623, 0x0623, [0x0627, 0x0654]⟩,
  ⟨0x0624, 0x0624, [0x0648, 0x0654]⟩, ⟨0x0625, 0x0625, [0x0627, 0x0655]⟩,
  ⟨0x0626, 0x0626, [0x064A, 0x0654]⟩, ⟨0x0675, 0x0675, [0x0627, 0x0674]⟩,
  ⟨0x0676, 0x0676, [0x0648, 0x0674]⟩, ⟨0x0677, 0x0677, [0x06C7, 0x0674]⟩,
  ⟨0x0678, 0x0678, [0x064A, 0x0674]⟩, ⟨0x06C0, 0x06C0, [0x06D5, 0x0654]⟩,
  ⟨0x06C2, 0x06C2, [0x06C1, 0x0654]⟩, ⟨0x06D3, 0x06D3, [0x06D2, 0x0654]⟩,
  ⟨0x0929, 0x0929, [0x0928, 0x093C]⟩, ⟨0x0931, 0x0931, [0x0930, 0x093C]⟩,
  ⟨0x0934, 0x0934, [0x0933, 0x093C]⟩, ⟨0x0958, 0x0958, [0x0915, 0x093C]⟩,
  ⟨0x0959, 0x0959, [0x0916, 0x093C]⟩, ⟨0x095A, 0x095A, [0x0917, 0x093C]⟩,
  ⟨0x095B, 0x095B, [0x091C, 0x093C]⟩, ⟨0x095C, 0x095C, [0x0921, 0x093C]⟩,
  ⟨0x095D, 0x095D, [0x0922, 0x093C]⟩, ⟨0x095E, 0x095E, [0x092B, 0x093C]⟩,
  ⟨0x095F, 0x095F, [0x092F, 0x093C]⟩, ⟨0x09CB, 0x09CB, [0x09C7, 0x09BE]⟩,
  ⟨0x09CC, 0x09CC, [0x09C7, 0x09D7]⟩, ⟨0x09DC, 0x09DC, [0x09A1, 0x09BC]⟩,
  ⟨0x09DD, 0x09DD, [0x09A2, 0x09BC]⟩, ⟨0x09DF, 0x09DF, [0x09AF, 0x09BC]⟩,
  ⟨0x0A33, 0x0A33, [0x0A32, 0x0A3C]⟩, ⟨0x0A36, 0x0A36, [0x0A38, 0x0A3C]⟩,
  ⟨0x0A59, 0x0A59, [0x0A16, 0x0A3C]⟩, ⟨0x0A5A, 0x0A5A, [0x0A17, 0x0A3C]⟩,
  ⟨0x0A5B, 0x0A5B, [0x0A1C, 0x0A3C]⟩, ⟨0x0A5E, 0x0A5E, [0x0A2B, 0x0A3C]⟩,
  ⟨0x0B48, 0x0B48, [0x0B47, 0x0B56]⟩, ⟨0x0B4B, 0x0B4B, [0x0B47, 0x0B3E]⟩,
  ⟨0x0B4C, 0x0B4C, [0x0B47, 0x0B57]⟩, ⟨0x0B5C, 0x0B5C, [0x0B21, 0x0B3C]⟩,
  ⟨0x0B5D, 0x0B5D, [0x0B22, 0x0B3C]⟩, ⟨0x0B94, 0x0B94, [0x0B92, 0x0BD7]⟩,
  ⟨0x0BCA, 0x0BCA, [0x0BC6, 0x0BBE]⟩, ⟨0x0BCB, 0x0BCB, [0x0BC7, 0x0BBE]⟩,
  ⟨0x0BCC, 0x0BCC, [0x0BC6, 0x0BD7]⟩, ⟨0x0C48, 0x0C48, [0x0C46, 0x0C56]⟩,
  ⟨0x0CC0, 0x0CC0, [0x0CBF, 0x0CD5]⟩, ⟨0x0CC7, 0x0CC7, [0x0CC6, 0x0CD5]⟩,
  ⟨0x0CC8, 0x0CC8, [0x0CC6, 0x0CD6]⟩, ⟨0x0CCA, 0x0CCA, [0x0CC6, 0x0CC2]⟩,
  ⟨0x0CCB, 0x0CCB, [0x0CC6, 0x0CC2, 0x0CD5]⟩, ⟨0x0D4A, 0x0D4A, [0x0D46, 0x0D3E]⟩,
  ⟨0x0D4B, 0x0D4B, [0x0D47, 0x0D3E]⟩, ⟨0x0D4C, 0x0D4C, [0x0D46, 0x0D57]⟩,
  ⟨0x0DDA, 0x0DDA, [0x0DD9, 0x0DCA]⟩, ⟨0x0DDC, 0x0DDC, [0x0DD9, 0x0DCF]⟩,
  ⟨0x0DDD, 0x0DDD, [0x0DD9, 0x0DCF, 0x0DCA]⟩, ⟨0x0DDE, 0x0DDE, [0x0DD9, 0x0DDF]⟩,
  ⟨0x0E33, 0x0E33, [0x0E4D, 0x0E32]⟩, ⟨0x0EB3, 0x0EB3, [0x0ECD, 0x0EB2]⟩,
  ⟨0x0EDC, 0x0EDC, [0x0EAB, 0x0E99]⟩, ⟨0x0EDD, 0x0EDD, [0x0EAB, 0x0EA1]⟩,
  ⟨0x0F0C, 0x0F0C, [0x0F0B]⟩, ⟨0x0F43, 0x0F43, [0x0F42, 0x0FB7]⟩,
  ⟨0x0F4D, 0x0F4D, [0x0F4C, 0x0FB7]⟩, ⟨0x0F52, 0x0F52, [0x0F51, 0x0FB7]⟩,
  ⟨0x0F57, 0x0F57, [0x0F56, 0x0FB7]⟩, ⟨0x0F5C, 0x0F5C, [0x0F5B, 0x0FB7]⟩,
  ⟨0x0F69, 0x0F69, [0x0F40, 0x0FB5]⟩, ⟨0x0F73, 0x0F73, [0x0F71, 0x0F72]⟩,
  ⟨0x0F75, 0x0F75, [0x0F71, 0x0F74]⟩, ⟨0x0F76, 0x0F76, [0x0FB2, 0x0F80]⟩,
  ⟨0x0F77, 0x0F77, [0x0FB2, 0x0F71, 0x0F80]⟩, ⟨0x0F78, 0x0F78, [0x0FB3, 0x0F80]⟩,
  ⟨0x0F79, 0x0F79, [0x0FB3, 0x0F71, 0x0F80]⟩, ⟨0x0F81, 0x0F81, [0x0F71, 0x0F80]⟩,
  ⟨0x0F93, 0x0F93, [0x0F92, 0x0FB7]⟩, ⟨0x0F9D, 0x0F9D, [0x0F9C, 0x0FB7]⟩,
  ⟨0x0FA2, 0x0FA2, [0x0FA1, 0x0FB7]⟩, ⟨0x0FA7, 0x0FA7, [0x0FA6, 0x0FB7]⟩,
  ⟨0x0FAC, 0x0FAC, [0x0FAB, 0x0FB7]⟩, ⟨0x0FB9, 0x0FB9, [0x0F90, 0x0FB5]⟩,
  ⟨0x1026, 0x1026, [0x1025, 0x102E]⟩, ⟨0x10FC, 0x10FC, [0x10DC]⟩,
  ⟨0x1B06, 0x1B06, [0x1B05, 0x1B35]⟩]

/-- Decompositions from 1B08 to 1EA5. -/
def from1B08 : List Mapping := [
  ⟨0x1B08, 0x1B08, [0x1B07, 0x1B35]⟩, ⟨0x1B0A, 0x1B0A, [0x1B09, 0x1B35]⟩,
  ⟨0x1B0C, 0x1B0C, [0x1B0B, 0x1B35]⟩, ⟨0x1B0E, 0x1B0E, [0x1B0D, 0x1B35]⟩,
  ⟨0x1B12, 0x1B12, [0x1B11, 0x1B35]⟩, ⟨0x1B3B, 0x1B3B, [0x1B3A, 0x1B35]⟩,
  ⟨0x1B3D, 0x1B3D, [0x1B3C, 0x1B35]⟩, ⟨0x1B40, 0x1B40, [0x1B3E, 0x1B35]⟩,
  ⟨0x1B41, 0x1B41, [0x1B3F, 0x1B35]⟩, ⟨0x1B43, 0x1B43, [0x1B42, 0x1B35]⟩,
  ⟨0x1D2C, 0x1D2C, [0x0041]⟩, ⟨0x1D2D, 0x1D2D, [0x00C6]⟩, ⟨0x1D2E, 0x1D2E, [0x0042]⟩,
  ⟨0x1D30, 0x1D31, [0x0044]⟩, ⟨0x1D32, 0x1D32, [0x018E]⟩, ⟨0x1D33, 0x1D3A, [0x0047]⟩,
  ⟨0x1D3C, 0x1D3C, [0x004F]⟩, ⟨0x1D3D, 0x1D3D, [0x0222]⟩, ⟨0x1D3E, 0x1D3E, [0x0050]⟩,
  ⟨0x1D3F, 0x1D3F, [0x0052]⟩, ⟨0x1D40, 0x1D41, [0x0054]⟩, ⟨0x1D42, 0x1D42, [0x0057]⟩,
  ⟨0x1D43, 0x1D43, [0x0061]⟩, ⟨0x1D44, 0x1D45, [0x0250]⟩, ⟨0x1D46, 0x1D46, [0x1D02]⟩,
  ⟨0x1D47, 0x1D47, [0x0062]⟩, ⟨0x1D48, 0x1D49, [0x0064]⟩, ⟨0x1D4A, 0x1D4A, [0x0259]⟩,
  ⟨0x1D4B, 0x1D4C, [0x025B]⟩, ⟨0x1D4D, 0x1D4D, [0x0067]⟩, ⟨0x1D4F, 0x1D4F, [0x006B]⟩,
  ⟨0x1D50, 0x1D50, [0x006D]⟩, ⟨0x1D51, 0x1D51, [0x014B]⟩, ⟨0x1D52, 0x1D52, [0x006F]⟩,
  ⟨0x1D53, 0x1D53, [0x0254]⟩, ⟨0x1D54, 0x1D55, [0x1D16]⟩, ⟨0x1D56, 0x1D56, [0x0070]⟩,
  ⟨0x1D57, 0x1D58, [0x0074]⟩, ⟨0x1D59, 0x1D59, [0x1D1D]⟩, ⟨0x1D5A, 0x1D5A, [0x026F]⟩,
  ⟨0x1D5B, 0x1D5B, [0x0076]⟩, ⟨0x1D5C, 0x1D5C, [0x1D25]⟩, ⟨0x1D5D, 0x1D5F, [0x03B2]⟩,
  ⟨0x1D60, 0x1D61, [0x03C6]⟩, ⟨0x1D62, 0x1D62, [0x0069]⟩, ⟨0x1D63, 0x1D63, [0x0072]⟩,
  ⟨0x1D64, 0x1D65, [0x0075]⟩, ⟨0x1D66, 0x1D67, [0x03B2]⟩, ⟨0x1D68, 0x1D68, [0x03C1]⟩,
  ⟨0x1D69, 0x1D6A, [0x03C6]⟩, ⟨0x1D78, 0x1D78, [0x043D]⟩, ⟨0x1D9B, 0x1D9B, [0x0252]⟩,
  ⟨0x1D9C, 0x1D9C, [0x0063]⟩, ⟨0x1D9D, 0x1D9D, [0x0255]⟩, ⟨0x1D9E, 0x1D9E, [0x00F0]⟩,
  ⟨0x1D9F, 0x1D9F, [0x025C]⟩, ⟨0x1DA0, 0x1DA0, [0x0066]⟩, ⟨0x1DA1, 0x1DA1, [0x025F]⟩,
  ⟨0x1DA2, 0x1DA2, [0x0261]⟩, ⟨0x1DA3, 0x1DA3, [0x0265]⟩, ⟨0x1DA4, 0x1DA6, [0x0268]⟩,
  ⟨0x1DA7, 0x1DA7, [0x1D7B]⟩, ⟨0x1DA8, 0x1DA8, [0x029D]⟩, ⟨0x1DA9, 0x1DA9, [0x026D]⟩,
  ⟨0x1DAA, 0x1DAA, [0x1D85]⟩, ⟨0x1DAB, 0x1DAB, [0x029F]⟩, ⟨0x1DAC, 0x1DAC, [0x0271]⟩,
  ⟨0x1DAD, 0x1DAD, [0x0270]⟩, ⟨0x1DAE, 0x1DB1, [0x0272]⟩, ⟨0x1DB2, 0x1DB2, [0x0278]⟩,
  ⟨0x1DB3, 0x1DB4, [0x0282]⟩, ⟨0x1DB5, 0x1DB5, [0x01AB]⟩, ⟨0x1DB6, 0x1DB7, [0x0289]⟩,
  ⟨0x1DB8, 0x1DB8, [0x1D1C]⟩, ⟨0x1DB9, 0x1DBA, [0x028B]⟩, ⟨0x1DBB, 0x1DBB, [0x007A]⟩,
  ⟨0x1DBC, 0x1DBE, [0x0290]⟩, ⟨0x1DBF, 0x1DBF, [0x03B8]⟩, ⟨0x1E00, 0x1E00, [0x0041, 0x0325]⟩,
  ⟨0x1E01, 0x1E01, [0x0061, 0x0325]⟩, ⟨0x1E02, 0x1E02, [0x0042, 0x0307]⟩,
  ⟨0x1E03, 0x1E03, [0x0062, 0x0307]⟩, ⟨0x1E04, 0x1E04, [0x0042, 0x0323]⟩,
  ⟨0x1E05, 0x1E05, [0x0062, 0x0323]⟩, ⟨0x1E06, 0x1E06, [0x0042, 0x0331]⟩,
  ⟨0x1E07, 0x1E07, [0x0062, 0x0331]⟩, ⟨0x1E08, 0x1E08, [0x0043, 0x0327, 0x0301]⟩,
  ⟨0x1E09, 0x1E09, [0x0063, 0x0327, 0x0301]⟩, ⟨0x1E0A, 0x1E0A, [0x0044, 0x0307]⟩,
  ⟨0x1E0B, 0x1E0B, [0x0064, 0x0307]⟩, ⟨0x1E0C, 0x1E0C, [0x0044, 0x0323]⟩,
  ⟨0x1E0D, 0x1E0D, [0x0064, 0x0323]⟩, ⟨0x1E0E, 0x1E0E, [0x0044, 0x0331]⟩,
  ⟨0x1E0F, 0x1E0F, [0x0064, 0x0331]⟩, ⟨0x1E10, 0x1E10, [0x0044, 0x0327]⟩,
  ⟨0x1E11, 0x1E11, [0x0064, 0x0327]⟩, ⟨0x1E12, 0x1E12, [0x0044, 0x032D]⟩,
  ⟨0x1E13, 0x1E13, [0x0064, 0x032D]⟩, ⟨0x1E14, 0x1E14, [0x0045, 0x0304, 0x0300]⟩,
  ⟨0x1E15, 0x1E15, [0x0065, 0x0304, 0x0300]⟩, ⟨0x1E16, 0x1E16, [0x0045, 0x0304, 0x0301]⟩,
  ⟨0x1E17, 0x1E17, [0x0065, 0x0304, 0x0301]⟩, ⟨0x1E18, 0x1E18, [0x0045, 0x032D]⟩,
  ⟨0x1E19, 0x1E19, [0x0065, 0x032D]⟩, ⟨0x1E1A, 0x1E1A, [0x0045, 0x0330]⟩,
  ⟨0x1E1B, 0x1E1B, [0x0065, 0x0330]⟩, ⟨0x1E1C, 0x1E1C, [0x0045, 0x0327, 0x0306]⟩,
  ⟨0x1E1D, 0x1E1D, [0x0065, 0x0327, 0x0306]⟩, ⟨0x1E1E, 0x1E1E, [0x0046, 0x0307]⟩,
  ⟨0x1E1F, 0x1E1F, [0x0066, 0x0307]⟩, ⟨0x1E20, 0x1E20, [0x0047, 0x0304]⟩,
  ⟨0x1E21, 0x1E21, [0x0067, 0x0304]⟩, ⟨0x1E22, 0x1E22, [0x0048, 0x0307]⟩,
  ⟨0x1E23, 0x1E23, [0x0068, 0x0307]⟩, ⟨0x1E24, 0x1E24, [0x0048, 0x0323]⟩,
  ⟨0x1E25, 0x1E25, [0x0068, 0x0323]⟩, ⟨0x1E26, 0x1E26, [0x0048, 0x0308]⟩,
  ⟨0x1E27, 0x1E27, [0x0068, 0x0308]⟩, ⟨0x1E28, 0x1E28, [0x0048, 0x0327]⟩,
  ⟨0x1E29, 0x1E29, [0x0068, 0x0327]⟩, ⟨0x1E2A, 0x1E2A, [0x0048, 0x032E]⟩,
  ⟨0x1E2B, 0x1E2B, [0x0068, 0x032E]⟩, ⟨0x1E2C, 0x1E2C, [0x0049, 0x0330]⟩,
  ⟨0x1E2D, 0x1E2D, [0x0069, 0x0330]⟩, ⟨0x1E2E, 0x1E2E, [0x0049, 0x0308, 0x0301]⟩,
  ⟨0x1E2F, 0x1E2F, [0x0069, 0x0308, 0x0301]⟩, ⟨0x1E30, 0x1E30, [0x004B, 0x0301]⟩,
  ⟨0x1E31, 0x1E31, [0x006B, 0x0301]⟩, ⟨0x1E32, 0x1E32, [0x004B, 0x0323]⟩,
  ⟨0x1E33, 0x1E33, [0x006B, 0x0323]⟩, ⟨0x1E34, 0x1E34, [0x004B, 0x0331]⟩,
  ⟨0x1E35, 0x1E35, [0x006B, 0x0331]⟩, ⟨0x1E36, 0x1E36, [0x004C, 0x0323]⟩,
  ⟨0x1E37, 0x1E37, [0x006C, 0x0323]⟩, ⟨0x1E38, 0x1E38, [0x004C, 0x0323, 0x0304]⟩,
  ⟨0x1E39, 0x1E39, [0x006C, 0x0323, 0x0304]⟩, ⟨0x1E3A, 0x1E3A, [0x004C, 0x0331]⟩,
  ⟨0x1E3B, 0x1E3B, [0x006C, 0x0331]⟩, ⟨0x1E3C, 0x1E3C, [0x004C, 0x032D]⟩,
  ⟨0x1E3D, 0x1E3D, [0x006C, 0x032D]⟩, ⟨0x1E3E, 0x1E3E, [0x004D, 0x0301]⟩,
  ⟨0x1E3F, 0x1E3F, [0x006D, 0x0301]⟩, ⟨0x1E40, 0x1E40, [0x004D, 0x0307]⟩,
  ⟨0x1E41, 0x1E41, [0x006D, 0x0307]⟩, ⟨0x1E42, 0x1E42, [0x004D, 0x0323]⟩,
  ⟨0x1E43, 0x1E43, [0x006D, 0x0323]⟩, ⟨0x1E44, 0x1E44, [0x004E, 0x0307]⟩,
  ⟨0x1E45, 0x1E45, [0x006E, 0x0307]⟩, ⟨0x1E46, 0x1E46, [0x004E, 0x0323]⟩,
  ⟨0x1E47, 0x1E47, [0x006E, 0x0323]⟩, ⟨0x1E48, 0x1E48, [0x004E, 0x0331]⟩,
  ⟨0x1E49, 0x1E49, [0x006E, 0x0331]⟩, ⟨0x1E4A, 0x1E4A, [0x004E, 0x032D]⟩,
  ⟨0x1E4B, 0x1E4B, [0x006E, 0x032D]⟩, ⟨0x1E4C, 0x1E4C, [0x004F, 0x0303, 0x0301]⟩,
  ⟨0x1E4D, 0x1E4D, [0x006F, 0x0303, 0x0301]⟩, ⟨0x1E4E, 0x1E4E, [0x004F, 0x0303, 0x0308]⟩,
  ⟨0x1E4F, 0x1E4F, [0x006F, 0x0303, 0x0308]⟩, ⟨0x1E50, 0x1E50, [0x004F, 0x0304, 0x0300]⟩,
  ⟨0x1E51, 0x1E51, [0x006F, 0x0304, 0x0300]⟩, ⟨0x1E52, 0x1E52, [0x004F, 0x0304, 0x0301]⟩,
  ⟨0x1E53, 0x1E53, [0x006F, 0x0304, 0x0301]⟩, ⟨0x1E54, 0x1E54, [0x0050, 0x0301]⟩,
  ⟨0x1E55, 0x1E55, [0x0070, 0x0301]⟩, ⟨0x1E56, 0x1E56, [0x0050, 0x0307]⟩,
  ⟨0x1E57, 0x1E57, [0x0070, 0x0307]⟩, ⟨0x1E58, 0x1E58, [0x0052, 0x0307]⟩,
  ⟨0x1E59, 0x1E59, [0x0072, 0x0307]⟩, ⟨0x1E5A, 0x1E5A, [0x0052, 0x0323]⟩,
  ⟨0x1E5B, 0x1E5B, [0x0072, 0x0323]⟩, ⟨0x1E5C, 0x1E5C, [0x0052, 0x0323, 0x0304]⟩,
  ⟨0x1E5D, 0x1E5D, [0x0072, 0x0323, 0x0304]⟩, ⟨0x1E5E, 0x1E5E, [0x0052, 0x0331]⟩,
  ⟨0x1E5F, 0x1E5F, [0x0072, 0x0331]⟩, ⟨0x1E60, 0x1E60, [0x0053, 0x0307]⟩,
  ⟨0x1E61, 0x1E61, [0x0073, 0x0307]⟩, ⟨0x1E62, 0x1E62, [0x0053, 0x0323]⟩,
  ⟨0x1E63, 0x1E63, [0x0073, 0x0323]⟩, ⟨0x1E64, 0x1E64, [0x0053, 0x0301, 0x0307]⟩,
  ⟨0x1E65, 0x1E65, [0x0073, 0x0301, 0x0307]⟩, ⟨0x1E66, 0x1E66, [0x0053, 0x030C, 0x0307]⟩,
  ⟨0x1E67, 0x1E67, [0x0073, 0x030C, 0x0307]⟩, ⟨0x1E68, 0x1E68, [0x0053, 0x0323, 0x0307]⟩,
  ⟨0x1E69, 0x1E69, [0x0073, 0x0323, 0x0307]⟩, ⟨0x1E6A, 0x1E6A, [0x0054, 0x0307]⟩,
  ⟨0x1E6B, 0x1E6B, [0x0074, 0x0307]⟩, ⟨0x1E6C, 0x1E6C, [0x0054, 0x0323]⟩,
  ⟨0x1E6D, 0x1E6D, [0x0074, 0x0323]⟩, ⟨0x1E6E, 0x1E6E, [0x0054, 0x0331]⟩,
  ⟨0x1E6F, 0x1E6F, [0x0074, 0x0331]⟩, ⟨0x1E70, 0x1E70, [0x0054, 0x032D]⟩,
  ⟨0x1E71, 0x1E71, [0x0074, 0x032D]⟩, ⟨0x1E72, 0x1E72, [0x0055, 0x0324]⟩,
  ⟨0x1E73, 0x1E73, [0x0075, 0x0324]⟩, ⟨0x1E74, 0x1E74, [0x0055, 0x0330]⟩,
  ⟨0x1E75, 0x1E75, [0x0075, 0x0330]⟩, ⟨0x1E76, 0x1E76, [0x0055, 0x032D]⟩,
  ⟨0x1E77, 0x1E77, [0x0075, 0x032D]⟩, ⟨0x1E78, 0x1E78, [0x0055, 0x0303, 0x0301]⟩,
  ⟨0x1E79, 0x1E79, [0x0075, 0x0303, 0x0301]⟩, ⟨0x1E7A, 0x1E7A, [0x0055, 0x0304, 0x0308]⟩,
  ⟨0x1E7B, 0x1E7B, [0x0075, 0x0304, 0x0308]⟩, ⟨0x1E7C, 0x1E7C, [0x0056, 0x0303]⟩,
  ⟨0x1E7D, 0x1E7D, [0x0076, 0x0303]⟩, ⟨0x1E7E, 0x1E7E, [0x0056, 0x0323]⟩,
  ⟨0x1E7F, 0x1E7F, [0x0076, 0x0323]⟩, ⟨0x1E80, 0x1E80, [0x0057, 0x0300]⟩,
  ⟨0x1E81, 0x1E81, [0x0077, 0x0300]⟩, ⟨0x1E82, 0x1E82, [0x0057, 0x0301]⟩,
  ⟨0x1E83, 0x1E83, [0x0077, 0x0301]⟩, ⟨0x1E84, 0x1E84, [0x0057, 0x0308]⟩,
  ⟨0x1E85, 0x1E85, [0x0077, 0x0308]⟩, ⟨0x1E86, 0x1E86, [0x0057, 0x0307]⟩,
  ⟨0x1E87, 0x1E87, [0x0077, 0x0307]⟩, ⟨0x1E88, 0x1E88, [0x0057, 0x0323]⟩,
  ⟨0x1E89, 0x1E89, [0x0077, 0x0323]⟩, ⟨0x1E8A, 0x1E8A, [0x0058, 0x0307]⟩,
  ⟨0x1E8B, 0x1E8B, [0x0078, 0x0307]⟩, ⟨0x1E8C, 0x1E8C, [0x0058, 0x0308]⟩,
  ⟨0x1E8D, 0x1E8D, [0x0078, 0x0308]⟩, ⟨0x1E8E, 0x1E8E, [0x0059, 0x0307]⟩,
  ⟨0x1E8F, 0x1E8F, [0x0079, 0x0307]⟩, ⟨0x1E90, 0x1E90, [0x005A, 0x0302]⟩,
  ⟨0x1E91, 0x1E91, [0x007A, 0x0302]⟩, ⟨0x1E92, 0x1E92, [0x005A, 0x0323]⟩,
  ⟨0x1E93, 0x1E93, [0x007A, 0x0323]⟩, ⟨0x1E94, 0x1E94, [0x005A, 0x0331]⟩,
  ⟨0x1E95, 0x1E95, [0x007A, 0x0331]⟩, ⟨0x1E96, 0x1E96, [0x0068, 0x0331]⟩,
  ⟨0x1E97, 0x1E97, [0x0074, 0x0308]⟩, ⟨0x1E98, 0x1E98, [0x0077, 0x030A]⟩,
  ⟨0x1E99, 0x1E99, [0x0079, 0x030A]⟩, ⟨0x1E9A, 0x1E9A, [0x0061, 0x02BE]⟩,
  ⟨0x1E9B, 0x1E9B, [0x0073, 0x0307]⟩, ⟨0x1EA0, 0x1EA0, [0x0041, 0x0323]⟩,
  ⟨0x1EA1, 0x1EA1, [0x0061, 0x0323]⟩, ⟨0x1EA2, 0x1EA2, [0x0041, 0x0309]⟩,
  ⟨0x1EA3, 0x1EA3, [0x0061, 0x0309]⟩, ⟨0x1EA4, 0x1EA4, [0x0041, 0x0302, 0x0301]⟩,
  ⟨0x1EA5, 0x1EA5, [0x0061, 0x0302, 0x0301]⟩]

/-- Decompositions from 1EA6 to 1FA9. -/
def from1EA6 : List Mapping := [
  ⟨0x1EA6, 0x1EA6, [0x0041, 0x0302, 0x0300]⟩, ⟨0x1EA7, 0x1EA7, [0x0061, 0x0302, 0x0300]⟩,
  ⟨0x1EA8, 0x1EA8, [0x0041, 0x0302, 0x0309]⟩, ⟨0x1EA9, 0x1EA9, [0x0061, 0x0302, 0x0309]⟩,
  ⟨0x1EAA, 0x1EAA, [0x0041, 0x0302, 0x0303]⟩, ⟨0x1EAB, 0x1EAB, [0x0061, 0x0302, 0x0303]⟩,
  ⟨0x1EAC, 0x1EAC, [0x0041, 0x0323, 0x0302]⟩, ⟨0x1EAD, 0x1EAD, [0x0061, 0x0323, 0x0302]⟩,
  ⟨0x1EAE, 0x1EAE, [0x0041, 0x0306, 0x0301]⟩, ⟨0x1EAF, 0x1EAF, [0x0061, 0x0306, 0x0301]⟩,
  ⟨0x1EB0, 0x1EB0, [0x0041, 0x0306, 0x0300]⟩, ⟨0x1EB1, 0x1EB1, [0x0061, 0x0306, 0x0300]⟩,
  ⟨0x1EB2, 0x1EB2, [0x0041, 0x0306, 0x0309]⟩, ⟨0x1EB3, 0x1EB3, [0x0061, 0x0306, 0x0309]⟩,
  ⟨0x1EB4, 0x1EB4, [0x0041, 0x0306, 0x0303]⟩, ⟨0x1EB5, 0x1EB5, [0x0061, 0x0306, 0x0303]⟩,
  ⟨0x1EB6, 0x1EB6, [0x0041, 0x0323, 0x0306]⟩, ⟨0x1EB7, 0x1EB7, [0x0061, 0x0323, 0x0306]⟩,
  ⟨0x1EB8, 0x1EB8, [0x0045, 0x0323]⟩, ⟨0x1EB9, 0x1EB9, [0x0065, 0x0323]⟩,
  ⟨0x1EBA, 0x1EBA, [0x0045, 0x0309]⟩, ⟨0x1EBB, 0x1EBB, [0x0065, 0x0309]⟩,
  ⟨0x1EBC, 0x1EBC, [0x0045, 0x0303]⟩, ⟨0x1EBD, 0x1EBD, [0x0065, 0x0303]⟩,
  ⟨0x1EBE, 0x1EBE, [0x0045, 0x0302, 0x0301]⟩, ⟨0x1EBF, 0x1EBF, [0x0065, 0x0302, 0x0301]⟩,
  ⟨0x1EC0, 0x1EC0, [0x0045, 0x0302, 0x0300]⟩, ⟨0x1EC1, 0x1EC1, [0x0065, 0x0302, 0x0300]⟩,
  ⟨0x1EC2, 0x1EC2, [0x0045, 0x0302, 0x0309]⟩, ⟨0x1EC3, 0x1EC3, [0x0065, 0x0302, 0x0309]⟩,
  ⟨0x1EC4, 0x1EC4, [0x0045, 0x0302, 0x0303]⟩, ⟨0x1EC5, 0x1EC5, [0x0065, 0x0302, 0x0303]⟩,
  ⟨0x1EC6, 0x1EC6, [0x0045, 0x0323, 0x0302]⟩, ⟨0x1EC7, 0x1EC7, [0x0065, 0x0323, 0x0302]⟩,
  ⟨0x1EC8, 0x1EC8, [0x0049, 0x0309]⟩, ⟨0x1EC9, 0x1EC9, [0x0069, 0x0309]⟩,
  ⟨0x1ECA, 0x1ECA, [0x0049, 0x0323]⟩, ⟨0x1ECB, 0x1ECB, [0x0069, 0x0323]⟩,
  ⟨0x1ECC, 0x1ECC, [0x004F, 0x0323]⟩, ⟨0x1ECD, 0x1ECD, [0x006F, 0x0323]⟩,
  ⟨0x1ECE, 0x1ECE, [0x004F, 0x0309]⟩, ⟨0x1ECF, 0x1ECF, [0x006F, 0x0309]⟩,
  ⟨0x1ED0, 0x1ED0, [0x004F, 0x0302, 0x0301]⟩, ⟨0x1ED1, 0x1ED1, [0x006F, 0x0302, 0x0301]⟩,
  ⟨0x1ED2, 0x1ED2, [0x004F, 0x0302, 0x0300]⟩, ⟨0x1ED3, 0x1ED3, [0x006F, 0x0302, 0x0300]⟩,
  ⟨0x1ED4, 0x1ED4, [0x004F, 0x0302, 0x0309]⟩, ⟨0x1ED5, 0x1ED5, [0x006F, 0x0302, 0x0309]⟩,
  ⟨0x1ED6, 0x1ED6, [0x004F, 0x0302, 0x0303]⟩, ⟨0x1ED7, 0x1ED7, [0x006F, 0x0302, 0x0303]⟩,
  ⟨0x1ED8, 0x1ED8, [0x004F, 0x0323, 0x0302]⟩, ⟨0x1ED9, 0x1ED9, [0x006F, 0x0323, 0x0302]⟩,
  ⟨0x1EDA, 0x1EDA, [0x004F, 0x031B, 0x0301]⟩, ⟨0x1EDB, 0x1EDB, [0x006F, 0x031B, 0x0301]⟩,
  ⟨0x1EDC, 0x1EDC, [0x004F, 0x031B, 0x0300]⟩, ⟨0x1EDD, 0x1EDD, [0x006F, 0x031B, 0x0300]⟩,
  ⟨0x1EDE, 0x1EDE, [0x004F, 0x031B, 0x0309]⟩, ⟨0x1EDF, 0x1EDF, [0x006F, 0x031B, 0x0309]⟩,
  ⟨0x1EE0, 0x1EE0, [0x004F, 0x031B, 0x0303]⟩, ⟨0x1EE1, 0x1EE1, [0x006F, 0x031B, 0x0303]⟩,
  ⟨0x1EE2, 0x1EE2, [0x004F, 0x031B, 0x0323]⟩, ⟨0x1EE3, 0x1EE3, [0x006F, 0x031B, 0x0323]⟩,
  ⟨0x1EE4, 0x1EE4, [0x0055, 0x0323]⟩, ⟨0x1EE5, 0x1EE5, [0x0075, 0x0323]⟩,
  ⟨0x1EE6, 0x1EE6, [0x0055, 0x0309]⟩, ⟨0x1EE7, 0x1EE7, [0x0075, 0x0309]⟩,
  ⟨0x1EE8, 0x1EE8, [0x0055, 0x031B, 0x0301]⟩, ⟨0x1EE9, 0x1EE9, [0x0075, 0x031B, 0x0301]⟩,
  ⟨0x1EEA, 0x1EEA, [0x0055, 0x031B, 0x0300]⟩, ⟨0x1EEB, 0x1EEB, [0x0075, 0x031B, 0x0300]⟩,
  ⟨0x1EEC, 0x1EEC, [0x0055, 0x031B, 0x0309]⟩, ⟨0x1EED, 0x1EED, [0x0075, 0x031B, 0x0309]⟩,
  ⟨0x1EEE, 0x1EEE, [0x0055, 0x031B, 0x0303]⟩, ⟨0x1EEF, 0x1EEF, [0x0075, 0x031B, 0x0303]⟩,
  ⟨0x1EF0, 0x1EF0, [0x0055, 0x031B, 0x0323]⟩, ⟨0x1EF1, 0x1EF1, [0x0075, 0x031B, 0x0323]⟩,
  ⟨0x1EF2, 0x1EF2, [0x0059, 0x0300]⟩, ⟨0x1EF3, 0x1EF3, [0x0079, 0x0300]⟩,
  ⟨0x1EF4, 0x1EF4, [0x0059, 0x0323]⟩, ⟨0x1EF5, 0x1EF5, [0x0079, 0x0323]⟩,
  ⟨0x1EF6, 0x1EF6, [0x0059, 0x0309]⟩, ⟨0x1EF7, 0x1EF7, [0x0079, 0x0309]⟩,
  ⟨0x1EF8, 0x1EF8, [0x0059, 0x0303]⟩, ⟨0x1EF9, 0x1EF9, [0x0079, 0x0303]⟩,
  ⟨0x1F00, 0x1F00, [0x03B1, 0x0313]⟩, ⟨0x1F01, 0x1F01, [0x03B1, 0x0314]⟩,
  ⟨0x1F02, 0x1F02, [0x03B1, 0x0313, 0x0300]⟩, ⟨0x1F03, 0x1F03, [0x03B1, 0x0314, 0x0300]⟩,
  ⟨0x1F04, 0x1F04, [0x03B1, 0x0313, 0x0301]⟩, ⟨0x1F05, 0x1F05, [0x03B1, 0x0314, 0x0301]⟩,
  ⟨0x1F06, 0x1F06, [0x03B1, 0x0313, 0x0342]⟩, ⟨0x1F07, 0x1F07, [0x03B1, 0x0314, 0x0342]⟩,
  ⟨0x1F08, 0x1F08, [0x0391, 0x0313]⟩, ⟨0x1F09, 0x1F09, [0x0391, 0x0314]⟩,
  ⟨0x1F0A, 0x1F0A, [0x0391, 0x0313, 0x0300]⟩, ⟨0x1F0B, 0x1F0B, [0x0391, 0x0314, 0x0300]⟩,
  ⟨0x1F0C, 0x1F0C, [0x0391, 0x0313, 0x0301]⟩, ⟨0x1F0D, 0x1F0D, [0x0391, 0x0314, 0x0301]⟩,
  ⟨0x1F0E, 0x1F0E, [0x0391, 0x0313, 0x0342]⟩, ⟨0x1F0F, 0x1F0F, [0x0391, 0x0314, 0x0342]⟩,
  ⟨0x1F10, 0x1F10, [0x03B5, 0x0313]⟩, ⟨0x1F11, 0x1F11, [0x03B5, 0x0314]⟩,
  ⟨0x1F12, 0x1F12, [0x03B5, 0x0313, 0x0300]⟩, ⟨0x1F13, 0x1F13, [0x03B5, 0x0314, 0x0300]⟩,
  ⟨0x1F14, 0x1F14, [0x03B5, 0x0313, 0x0301]⟩, ⟨0x1F15, 0x1F15, [0x03B5, 0x0314, 0x0301]⟩,
  ⟨0x1F18, 0x1F18, [0x0395, 0x0313]⟩, ⟨0x1F19, 0x1F19, [0x0395, 0x0314]⟩,
  ⟨0x1F1A, 0x1F1A, [0x0395, 0x0313, 0x0300]⟩, ⟨0x1F1B, 0x1F1B, [0x0395, 0x0314, 0x0300]⟩,
  ⟨0x1F1C, 0x1F1C, [0x0395, 0x0313, 0x0301]⟩, ⟨0x1F1D, 0x1F1D, [0x0395, 0x0314, 0x0301]⟩,
  ⟨0x1F20, 0x1F20, [0x03B7, 0x0313]⟩, ⟨0x1F21, 0x1F21, [0x03B7, 0x0314]⟩,
  ⟨0x1F22, 0x1F22, [0x03B7, 0x0313, 0x0300]⟩, ⟨0x1F23, 0x1F23, [0x03B7, 0x0314, 0x0300]⟩,
  ⟨0x1F24, 0x1F24, [0x03B7, 0x0313, 0x0301]⟩, ⟨0x1F25, 0x1F25, [0x03B7, 0x0314, 0x0301]⟩,
  ⟨0x1F26, 0x1F26, [0x03B7, 0x0313, 0x0342]⟩, ⟨0x1F27, 0x1F27, [0x03B7, 0x0314, 0x0342]⟩,
  ⟨0x1F28, 0x1F28, [0x0397, 0x0313]⟩, ⟨0x1F29, 0x1F29, [0x0397, 0x0314]⟩,
  ⟨0x1F2A, 0x1F2A, [0x0397, 0x0313, 0x0300]⟩, ⟨0x1F2B, 0x1F2B, [0x0397, 0x0314, 0x0300]⟩,
  ⟨0x1F2C, 0x1F2C, [0x0397, 0x0313, 0x0301]⟩, ⟨0x1F2D, 0x1F2D, [0x0397, 0x0314, 0x0301]⟩,
  ⟨0x1F2E, 0x1F2E, [0x0397, 0x0313, 0x0342]⟩, ⟨0x1F2F, 0x1F2F, [0x0397, 0x0314, 0x0342]⟩,
  ⟨0x1F30, 0x1F30, [0x03B9, 0x0313]⟩, ⟨0x1F31, 0x1F31, [0x03B9, 0x0314]⟩,
  ⟨0x1F32, 0x1F32, [0x03B9, 0x0313, 0x0300]⟩, ⟨0x1F33, 0x1F33, [0x03B9, 0x0314, 0x0300]⟩,
  ⟨0x1F34, 0x1F34, [0x03B9, 0x0313, 0x0301]⟩, ⟨0x1F35, 0x1F35, [0x03B9, 0x0314, 0x0301]⟩,
  ⟨0x1F36, 0x1F36, [0x03B9, 0x0313, 0x0342]⟩, ⟨0x1F37, 0x1F37, [0x03B9, 0x0314, 0x0342]⟩,
  ⟨0x1F38, 0x1F38, [0x0399, 0x0313]⟩, ⟨0x1F39, 0x1F39, [0x0399, 0x0314]⟩,
  ⟨0x1F3A, 0x1F3A, [0x0399, 0x0313, 0x0300]⟩, ⟨0x1F3B, 0x1F3B, [0x0399, 0x0314, 0x0300]⟩,
  ⟨0x1F3C, 0x1F3C, [0x0399, 0x0313, 0x0301]⟩, ⟨0x1F3D, 0x1F3D, [0x0399, 0x0314, 0x0301]⟩,
  ⟨0x1F3E, 0x1F3E, [0x0399, 0x0313, 0x0342]⟩, ⟨0x1F3F, 0x1F3F, [0x0399, 0x0314, 0x0342]⟩,
  ⟨0x1F40, 0x1F40, [0x03BF, 0x0313]⟩, ⟨0x1F41, 0x1F41, [0x03BF, 0x0314]⟩,
  ⟨0x1F42, 0x1F42, [0x03BF, 0x0313, 0x0300]⟩, ⟨0x1F43, 0x1F43, [0x03BF, 0x0314, 0x0300]⟩,
  ⟨0x1F44, 0x1F44, [0x03BF, 0x0313, 0x0301]⟩, ⟨0x1F45, 0x1F45, [0x03BF, 0x0314, 0x0301]⟩,
  ⟨0x1F48, 0x1F48, [0x039F, 0x0313]⟩, ⟨0x1F49, 0x1F49, [0x039F, 0x0314]⟩,
  ⟨0x1F4A, 0x1F4A, [0x039F, 0x0313, 0x0300]⟩, ⟨0x1F4B, 0x1F4B, [0x039F, 0x0314, 0x0300]⟩,
  ⟨0x1F4C, 0x1F4C, [0x039F, 0x0313, 0x0301]⟩, ⟨0x1F4D, 0x1F4D, [0x039F, 0x0314, 0x0301]⟩,
  ⟨0x1F50, 0x1F50, [0x03C5, 0x0313]⟩, ⟨0x1F51, 0x1F51, [0x03C5, 0x0314]⟩,
  ⟨0x1F52, 0x1F52, [0x03C5, 0x0313, 0x0300]⟩, ⟨0x1F53, 0x1F53, [0x03C5, 0x0314, 0x0300]⟩,
  ⟨0x1F54, 0x1F54, [0x03C5, 0x0313, 0x0301]⟩, ⟨0x1F55, 0x1F55, [0x03C5, 0x0314, 0x0301]⟩,
  ⟨0x1F56, 0x1F56, [0x03C5, 0x0313, 0x0342]⟩, ⟨0x1F57, 0x1F57, [0x03C5, 0x0314, 0x0342]⟩,
  ⟨0x1F59, 0x1F59, [0x03A5, 0x0314]⟩, ⟨0x1F5B, 0x1F5B, [0x03A5, 0x0314, 0x0300]⟩,
  ⟨0x1F5D, 0x1F5D, [0x03A5, 0x0314, 0x0301]⟩, ⟨0x1F5F, 0x1F5F, [0x03A5, 0x0314, 0x0342]⟩,
  ⟨0x1F60, 0x1F60, [0x03C9, 0x0313]⟩, ⟨0x1F61, 0x1F61, [0x03C9, 0x0314]⟩,
  ⟨0x1F62, 0x1F62, [0x03C9, 0x0313, 0x0300]⟩, ⟨0x1F63, 0x1F63, [0x03C9, 0x0314, 0x0300]⟩,
  ⟨0x1F64, 0x1F64, [0x03C9, 0x0313, 0x0301]⟩, ⟨0x1F65, 0x1F65, [0x03C9, 0x0314, 0x0301]⟩,
  ⟨0x1F66, 0x1F66, [0x03C9, 0x0313, 0x0342]⟩, ⟨0x1F67, 0x1F67, [0x03C9, 0x0314, 0x0342]⟩,
  ⟨0x1F68, 0x1F68, [0x03A9, 0x0313]⟩, ⟨0x1F69, 0x1F69, [0x03A9, 0x0314]⟩,
  ⟨0x1F6A, 0x1F6A, [0x03A9, 0x0313, 0x0300]⟩, ⟨0x1F6B, 0x1F6B, [0x03A9, 0x0314, 0x0300]⟩,
  ⟨0x1F6C, 0x1F6C, [0x03A9, 0x0313, 0x0301]⟩, ⟨0x1F6D, 0x1F6D, [0x03A9, 0x0314, 0x0301]⟩,
  ⟨0x1F6E, 0x1F6E, [0x03A9, 0x0313, 0x0342]⟩, ⟨0x1F6F, 0x1F6F, [0x03A9, 0x0314, 0x0342]⟩,
  ⟨0x1F70, 0x1F70, [0x03B1, 0x0300]⟩, ⟨0x1F71, 0x1F71, [0x03B1, 0x0301]⟩,
  ⟨0x1F72, 0x1F72, [0x03B5, 0x0300]⟩, ⟨0x1F73, 0x1F73, [0x03B5, 0x0301]⟩,
  ⟨0x1F74, 0x1F74, [0x03B7, 0x0300]⟩, ⟨0x1F75, 0x1F75, [0x03B7, 0x0301]⟩,
  ⟨0x1F76, 0x1F76, [0x03B9, 0x0300]⟩, ⟨0x1F77, 0x1F77, [0x03B9, 0x0301]⟩,
  ⟨0x1F78, 0x1F78, [0x03BF, 0x0300]⟩, ⟨0x1F79, 0x1F79, [0x03BF, 0x0301]⟩,
  ⟨0x1F7A, 0x1F7A, [0x03C5, 0x0300]⟩, ⟨0x1F7B, 0x1F7B, [0x03C5, 0x0301]⟩,
  ⟨0x1F7C, 0x1F7C, [0x03C9, 0x0300]⟩, ⟨0x1F7D, 0x1F7D, [0x03C9, 0x0301]⟩,
  ⟨0x1F80, 0x1F80, [0x03B1, 0x0313, 0x0345]⟩, ⟨0x1F81, 0x1F81, [0x03B1, 0x0314, 0x0345]⟩,
  ⟨0x1F82, 0x1F82, [0x03B1, 0x0313, 0x0300, 0x0345]⟩,
  ⟨0x1F83, 0x1F83, [0x03B1, 0x0314, 0x0300, 0x0345]⟩,
  ⟨0x1F84, 0x1F84, [0x03B1, 0x0313, 0x0301, 0x0345]⟩,
  ⟨0x1F85, 0x1F85, [0x03B1, 0x0314, 0x0301, 0x0345]⟩,
  ⟨0x1F86, 0x1F86, [0x03B1, 0x0313, 0x0342, 0x0345]⟩,
  ⟨0x1F87, 0x1F87, [0x03B1, 0x0314, 0x0342, 0x0345]⟩, ⟨0x1F88, 0x1F88, [0x0391, 0x0313, 0x0345]⟩,
  ⟨0x1F89, 0x1F89, [0x0391, 0x0314, 0x0345]⟩, ⟨0x1F8A, 0x1F8A, [0x0391, 0x0313, 0x0300, 0x0345]⟩,
  ⟨0x1F8B, 0x1F8B, [0x0391, 0x0314, 0x0300, 0x0345]⟩,
  ⟨0x1F8C, 0x1F8C, [0x0391, 0x0313, 0x0301, 0x0345]⟩,
  ⟨0x1F8D, 0x1F8D, [0x0391, 0x0314, 0x0301, 0x0345]⟩,
  ⟨0x1F8E, 0x1F8E, [0x0391, 0x0313, 0x0342, 0x0345]⟩,
  ⟨0x1F8F, 0x1F8F, [0x0391, 0x0314, 0x0342, 0x0345]⟩, ⟨0x1F90, 0x1F90, [0x03B7, 0x0313, 0x0345]⟩,
  ⟨0x1F91, 0x1F91, [0x03B7, 0x0314, 0x0345]⟩, ⟨0x1F92, 0x1F92, [0x03B7, 0x0313, 0x0300, 0x0345]⟩,
  ⟨0x1F93, 0x1F93, [0x03B7, 0x0314, 0x0300, 0x0345]⟩,
  ⟨0x1F94, 0x1F94, [0x03B7, 0x0313, 0x0301, 0x0345]⟩,
  ⟨0x1F95, 0x1F95, [0x03B7, 0x0314, 0x0301, 0x0345]⟩,
  ⟨0x1F96, 0x1F96, [0x03B7, 0x0313, 0x0342, 0x0345]⟩,
  ⟨0x1F97, 0x1F97, [0x03B7, 0x0314, 0x0342, 0x0345]⟩, ⟨0x1F98, 0x1F98, [0x0397, 0x0313, 0x0345]⟩,
  ⟨0x1F99, 0x1F99, [0x0397, 0x0314, 0x0345]⟩, ⟨0x1F9A, 0x1F9A, [0x0397, 0x0313, 0x0300, 0x0345]⟩,
  ⟨0x1F9B, 0x1F9B, [0x0397, 0x0314, 0x0300, 0x0345]⟩,
  ⟨0x1F9C, 0x1F9C, [0x0397, 0x0313, 0x0301, 0x0345]⟩,
  ⟨0x1F9D, 0x1F9D, [0x0397, 0x0314, 0x0301, 0x0345]⟩,
  ⟨0x1F9E, 0x1F9E, [0x0397, 0x0313, 0x0342, 0x0345]⟩,
  ⟨0x1F9F, 0x1F9F, [0x0397, 0x0314, 0x0342, 0x0345]⟩, ⟨0x1FA0, 0x1FA0, [0x03C9, 0x0313, 0x0345]⟩,
  ⟨0x1FA1, 0x1FA1, [0x03C9, 0x0314, 0x0345]⟩, ⟨0x1FA2, 0x1FA2, [0x03C9, 0x0313, 0x0300, 0x0345]⟩,
  ⟨0x1FA3, 0x1FA3, [0x03C9, 0x0314, 0x0300, 0x0345]⟩,
  ⟨0x1FA4, 0x1FA4, [0x03C9, 0x0313, 0x0301, 0x0345]⟩,
  ⟨0x1FA5, 0x1FA5, [0x03C9, 0x0314, 0x0301, 0x0345]⟩,
  ⟨0x1FA6, 0x1FA6, [0x03C9, 0x0313, 0x0342, 0x0345]⟩,
  ⟨0x1FA7, 0x1FA7, [0x03C9, 0x0314, 0x0342, 0x0345]⟩, ⟨0x1FA8, 0x1FA8, [0x03A9, 0x0313, 0x0345]⟩,
  ⟨0x1FA9, 0x1FA9, [0x03A9, 0x0314, 0x0345]⟩]

/-- Decompositions from 1FAA to 2247. -/
def from1FAA : List Mapping := [
  ⟨0x1FAA, 0x1FAA, [0x03A9, 0x0313, 0x0300, 0x0345]⟩,
  ⟨0x1FAB, 0x1FAB, [0x03A9, 0x0314, 0x0300, 0x0345]⟩,
  ⟨0x1FAC, 0x1FAC, [0x03A9, 0x0313, 0x0301, 0x0345]⟩,
  ⟨0x1FAD, 0x1FAD, [0x03A9, 0x0314, 0x0301, 0x0345]⟩,
  ⟨0x1FAE, 0x1FAE, [0x03A9, 0x0313, 0x0342, 0x0345]⟩,
  ⟨0x1FAF, 0x1FAF, [0x03A9, 0x0314, 0x0342, 0x0345]⟩, ⟨0x1FB0, 0x1FB0, [0x03B1, 0x0306]⟩,
  ⟨0x1FB1, 0x1FB1, [0x03B1, 0x0304]⟩, ⟨0x1FB2, 0x1FB2, [0x03B1, 0x0300, 0x0345]⟩,
  ⟨0x1FB3, 0x1FB3, [0x03B1, 0x0345]⟩, ⟨0x1FB4, 0x1FB4, [0x03B1, 0x0301, 0x0345]⟩,
  ⟨0x1FB6, 0x1FB6, [0x03B1, 0x0342]⟩, ⟨0x1FB7, 0x1FB7, [0x03B1, 0x0342, 0x0345]⟩,
  ⟨0x1FB8, 0x1FB8, [0x0391, 0x0306]⟩, ⟨0x1FB9, 0x1FB9, [0x0391, 0x0304]⟩,
  ⟨0x1FBA, 0x1FBA, [0x0391, 0x0300]⟩, ⟨0x1FBB, 0x1FBB, [0x0391, 0x0301]⟩,
  ⟨0x1FBC, 0x1FBC, [0x0391, 0x0345]⟩, ⟨0x1FBD, 0x1FBD, [0x0020, 0x0313]⟩,
  ⟨0x1FBE, 0x1FBE, [0x03B9]⟩, ⟨0x1FBF, 0x1FBF, [0x0020, 0x0313]⟩,
  ⟨0x1FC0, 0x1FC0, [0x0020, 0x0342]⟩, ⟨0x1FC1, 0x1FC1, [0x0020, 0x0308, 0x0342]⟩,
  ⟨0x1FC2, 0x1FC2, [0x03B7, 0x0300, 0x0345]⟩, ⟨0x1FC3, 0x1FC3, [0x03B7, 0x0345]⟩,
  ⟨0x1FC4, 0x1FC4, [0x03B7, 0x0301, 0x0345]⟩, ⟨0x1FC6, 0x1FC6, [0x03B7, 0x0342]⟩,
  ⟨0x1FC7, 0x1FC7, [0x03B7, 0x0342, 0x0345]⟩, ⟨0x1FC8, 0x1FC8, [0x0395, 0x0300]⟩,
  ⟨0x1FC9, 0x1FC9, [0x0395, 0x0301]⟩, ⟨0x1FCA, 0x1FCA, [0x0397, 0x0300]⟩,
  ⟨0x1FCB, 0x1FCB, [0x0397, 0x0301]⟩, ⟨0x1FCC, 0x1FCC, [0x0397, 0x0345]⟩,
  ⟨0x1FCD, 0x1FCD, [0x0020, 0x0313, 0x0300]⟩, ⟨0x1FCE, 0x1FCE, [0x0020, 0x0313, 0x0301]⟩,
  ⟨0x1FCF, 0x1FCF, [0x0020, 0x0313, 0x0342]⟩, ⟨0x1FD0, 0x1FD0, [0x03B9, 0x0306]⟩,
  ⟨0x1FD1, 0x1FD1, [0x03B9, 0x0304]⟩, ⟨0x1FD2, 0x1FD2, [0x03B9, 0x0308, 0x0300]⟩,
  ⟨0x1FD3, 0x1FD3, [0x03B9, 0x0308, 0x0301]⟩, ⟨0x1FD6, 0x1FD6, [0x03B9, 0x0342]⟩,
  ⟨0x1FD7, 0x1FD7, [0x03B9, 0x0308, 0x0342]⟩, ⟨0x1FD8, 0x1FD8, [0x0399, 0x0306]⟩,
  ⟨0x1FD9, 0x1FD9, [0x0399, 0x0304]⟩, ⟨0x1FDA, 0x1FDA, [0x0399, 0x0300]⟩,
  ⟨0x1FDB, 0x1FDB, [0x0399, 0x0301]⟩, ⟨0x1FDD, 0x1FDD, [0x0020, 0x0314, 0x0300]⟩,
  ⟨0x1FDE, 0x1FDE, [0x0020, 0x0314, 0x0301]⟩, ⟨0x1FDF, 0x1FDF, [0x0020, 0x0314, 0x0342]⟩,
  ⟨0x1FE0, 0x1FE0, [0x03C5, 0x0306]⟩, ⟨0x1FE1, 0x1FE1, [0x03C5, 0x0304]⟩,
  ⟨0x1FE2, 0x1FE2, [0x03C5, 0x0308, 0x0300]⟩, ⟨0x1FE3, 0x1FE3, [0x03C5, 0x0308, 0x0301]⟩,
  ⟨0x1FE4, 0x1FE4, [0x03C1, 0x0313]⟩, ⟨0x1FE5, 0x1FE5, [0x03C1, 0x0314]⟩,
  ⟨0x1FE6, 0x1FE6, [0x03C5, 0x0342]⟩, ⟨0x1FE7, 0x1FE7, [0x03C5, 0x0308, 0x0342]⟩,
  ⟨0x1FE8, 0x1FE8, [0x03A5, 0x0306]⟩, ⟨0x1FE9, 0x1FE9, [0x03A5, 0x0304]⟩,
  ⟨0x1FEA, 0x1FEA, [0x03A5, 0x0300]⟩, ⟨0x1FEB, 0x1FEB, [0x03A5, 0x0301]⟩,
  ⟨0x1FEC, 0x1FEC, [0x03A1, 0x0314]⟩, ⟨0x1FED, 0x1FED, [0x0020, 0x0308, 0x0300]⟩,
  ⟨0x1FEE, 0x1FEE, [0x0020, 0x0308, 0x0301]⟩, ⟨0x1FEF, 0x1FEF, [0x0060]⟩,
  ⟨0x1FF2, 0x1FF2, [0x03C9, 0x0300, 0x0345]⟩, ⟨0x1FF3, 0x1FF3, [0x03C9, 0x0345]⟩,
  ⟨0x1FF4, 0x1FF4, [0x03C9, 0x0301, 0x0345]⟩, ⟨0x1FF6, 0x1FF6, [0x03C9, 0x0342]⟩,
  ⟨0x1FF7, 0x1FF7, [0x03C9, 0x0342, 0x0345]⟩, ⟨0x1FF8, 0x1FF8, [0x039F, 0x0300]⟩,
  ⟨0x1FF9, 0x1FF9, [0x039F, 0x0301]⟩, ⟨0x1FFA, 0x1FFA, [0x03A9, 0x0300]⟩,
  ⟨0x1FFB, 0x1FFB, [0x03A9, 0x0301]⟩, ⟨0x1FFC, 0x1FFC, [0x03A9, 0x0345]⟩,
  ⟨0x1FFD, 0x1FFD, [0x0020, 0x0301]⟩, ⟨0x1FFE, 0x1FFE, [0x0020, 0x0314]⟩,
  ⟨0x2000, 0x2000, [0x0020]⟩, ⟨0x2001, 0x2001, [0x0020]⟩, ⟨0x2002, 0x2002, [0x0020]⟩,
  ⟨0x2003, 0x2003, [0x0020]⟩, ⟨0x2004, 0x2004, [0x0020]⟩, ⟨0x2005, 0x2005, [0x0020]⟩,
  ⟨0x2006, 0x2006, [0x0020]⟩, ⟨0x2007, 0x2007, [0x0020]⟩, ⟨0x2008, 0x2008, [0x0020]⟩,
  ⟨0x2009, 0x2009, [0x0020]⟩, ⟨0x200A, 0x200A, [0x0020]⟩, ⟨0x2011, 0x2011, [0x2010]⟩,
  ⟨0x2017, 0x2017, [0x0020, 0x0333]⟩, ⟨0x2024, 0x2024, [0x002E]⟩,
  ⟨0x2025, 0x2025, [0x002E, 0x002E]⟩, ⟨0x2026, 0x2026, [0x002E, 0x002E, 0x002E]⟩,
  ⟨0x202F, 0x202F, [0x0020]⟩, ⟨0x2033, 0x2033, [0x2032, 0x2032]⟩,
  ⟨0x2034, 0x2034, [0x2032, 0x2032, 0x2032]⟩, ⟨0x2036, 0x2036, [0x2035, 0x2035]⟩,
  ⟨0x2037, 0x2037, [0x2035, 0x2035, 0x2035]⟩, ⟨0x203C, 0x203C, [0x0021, 0x0021]⟩,
  ⟨0x203E, 0x203E, [0x0020, 0x0305]⟩, ⟨0x2047, 0x2047, [0x003F, 0x003F]⟩,
  ⟨0x2048, 0x2048, [0x003F, 0x0021]⟩, ⟨0x2049, 0x2049, [0x0021, 0x003F]⟩,
  ⟨0x2057, 0x2057, [0x2032, 0x2032, 0x2032, 0x2032]⟩, ⟨0x205F, 0x205F, [0x0020]⟩,
  ⟨0x2070, 0x2070, [0x0030]⟩, ⟨0x2071, 0x2071, [0x0069]⟩, ⟨0x2074, 0x2079, [0x0034]⟩,
  ⟨0x207A, 0x207A, [0x002B]⟩, ⟨0x207B, 0x207B, [0x2212]⟩, ⟨0x207C, 0x207C, [0x003D]⟩,
  ⟨0x207D, 0x207E, [0x0028]⟩, ⟨0x207F, 0x207F, [0x006E]⟩, ⟨0x2080, 0x2089, [0x0030]⟩,
  ⟨0x208A, 0x208A, [0x002B]⟩, ⟨0x208B, 0x208B, [0x2212]⟩, ⟨0x208C, 0x208C, [0x003D]⟩,
  ⟨0x208D, 0x208E, [0x0028]⟩, ⟨0x2090, 0x2090, [0x0061]⟩, ⟨0x2091, 0x2091, [0x0065]⟩,
  ⟨0x2092, 0x2092, [0x006F]⟩, ⟨0x2093, 0x2093, [0x0078]⟩, ⟨0x2094, 0x2094, [0x0259]⟩,
  ⟨0x2095, 0x2095, [0x0068]⟩, ⟨0x2096, 0x2099, [0x006B]⟩, ⟨0x209A, 0x209A, [0x0070]⟩,
  ⟨0x209B, 0x209C, [0x0073]⟩, ⟨0x20A8, 0x20A8, [0x0052, 0x0073]⟩,
  ⟨0x2100, 0x2100, [0x0061, 0x002F, 0x0063]⟩, ⟨0x2101, 0x2101, [0x0061, 0x002F, 0x0073]⟩,
  ⟨0x2102, 0x2102, [0x0043]⟩, ⟨0x2103, 0x2103, [0x00B0, 0x0043]⟩,
  ⟨0x2105, 0x2105, [0x0063, 0x002F, 0x006F]⟩, ⟨0x2106, 0x2106, [0x0063, 0x002F, 0x0075]⟩,
  ⟨0x2107, 0x2107, [0x0190]⟩, ⟨0x2109, 0x2109, [0x00B0, 0x0046]⟩, ⟨0x210A, 0x210A, [0x0067]⟩,
  ⟨0x210B, 0x210B, [0x0048]⟩, ⟨0x210C, 0x210C, [0x0048]⟩, ⟨0x210D, 0x210D, [0x0048]⟩,
  ⟨0x210E, 0x210E, [0x0068]⟩, ⟨0x210F, 0x210F, [0x0127]⟩, ⟨0x2110, 0x2110, [0x0049]⟩,
  ⟨0x2111, 0x2111, [0x0049]⟩, ⟨0x2112, 0x2112, [0x004C]⟩, ⟨0x2113, 0x2113, [0x006C]⟩,
  ⟨0x2115, 0x2115, [0x004E]⟩, ⟨0x2116, 0x2116, [0x004E, 0x006F]⟩, ⟨0x2119, 0x211B, [0x0050]⟩,
  ⟨0x211C, 0x211C, [0x0052]⟩, ⟨0x211D, 0x211D, [0x0052]⟩, ⟨0x2120, 0x2120, [0x0053, 0x004D]⟩,
  ⟨0x2121, 0x2121, [0x0054, 0x0045, 0x004C]⟩, ⟨0x2122, 0x2122, [0x0054, 0x004D]⟩,
  ⟨0x2124, 0x2124, [0x005A]⟩, ⟨0x2126, 0x2126, [0x03A9]⟩, ⟨0x2128, 0x2128, [0x005A]⟩,
  ⟨0x212A, 0x212A, [0x004B]⟩, ⟨0x212B, 0x212B, [0x0041, 0x030A]⟩, ⟨0x212C, 0x212D, [0x0042]⟩,
  ⟨0x212F, 0x212F, [0x0065]⟩, ⟨0x2130, 0x2131, [0x0045]⟩, ⟨0x2133, 0x2133, [0x004D]⟩,
  ⟨0x2134, 0x2134, [0x006F]⟩, ⟨0x2135, 0x2138, [0x05D0]⟩, ⟨0x2139, 0x2139, [0x0069]⟩,
  ⟨0x213B, 0x213B, [0x0046, 0x0041, 0x0058]⟩, ⟨0x213C, 0x213C, [0x03C0]⟩,
  ⟨0x213D, 0x213D, [0x03B3]⟩, ⟨0x213E, 0x213E, [0x0393]⟩, ⟨0x213F, 0x213F, [0x03A0]⟩,
  ⟨0x2140, 0x2140, [0x2211]⟩, ⟨0x2145, 0x2145, [0x0044]⟩, ⟨0x2146, 0x2147, [0x0064]⟩,
  ⟨0x2148, 0x2149, [0x0069]⟩, ⟨0x2150, 0x2150, [0x0031, 0x2044, 0x0037]⟩,
  ⟨0x2151, 0x2151, [0x0031, 0x2044, 0x0039]⟩, ⟨0x2152, 0x2152, [0x0031, 0x2044, 0x0031, 0x0030]⟩,
  ⟨0x2153, 0x2153, [0x0031, 0x2044, 0x0033]⟩, ⟨0x2154, 0x2154, [0x0032, 0x2044, 0x0033]⟩,
  ⟨0x2155, 0x2155, [0x0031, 0x2044, 0x0035]⟩, ⟨0x2156, 0x2156, [0x0032, 0x2044, 0x0035]⟩,
  ⟨0x2157, 0x2157, [0x0033, 0x2044, 0x0035]⟩, ⟨0x2158, 0x2158, [0x0034, 0x2044, 0x0035]⟩,
  ⟨0x2159, 0x2159, [0x0031, 0x2044, 0x0036]⟩, ⟨0x215A, 0x215A, [0x0035, 0x2044, 0x0036]⟩,
  ⟨0x215B, 0x215B, [0x0031, 0x2044, 0x0038]⟩, ⟨0x215C, 0x215C, [0x0033, 0x2044, 0x0038]⟩,
  ⟨0x215D, 0x215D, [0x0035, 0x2044, 0x0038]⟩, ⟨0x215E, 0x215E, [0x0037, 0x2044, 0x0038]⟩,
  ⟨0x215F, 0x215F, [0x0031, 0x2044]⟩, ⟨0x2160, 0x2160, [0x0049]⟩,
  ⟨0x2161, 0x2161, [0x0049, 0x0049]⟩, ⟨0x2162, 0x2162, [0x0049, 0x0049, 0x0049]⟩,
  ⟨0x2163, 0x2163, [0x0049, 0x0056]⟩, ⟨0x2164, 0x2164, [0x0056]⟩,
  ⟨0x2165, 0x2165, [0x0056, 0x0049]⟩, ⟨0x2166, 0x2166, [0x0056, 0x0049, 0x0049]⟩,
  ⟨0x2167, 0x2167, [0x0056, 0x0049, 0x0049, 0x0049]⟩, ⟨0x2168, 0x2168, [0x0049, 0x0058]⟩,
  ⟨0x2169, 0x2169, [0x0058]⟩, ⟨0x216A, 0x216A, [0x0058, 0x0049]⟩,
  ⟨0x216B, 0x216B, [0x0058, 0x0049, 0x0049]⟩, ⟨0x216C, 0x216C, [0x004C]⟩,
  ⟨0x216D, 0x216E, [0x0043]⟩, ⟨0x216F, 0x216F, [0x004D]⟩, ⟨0x2170, 0x2170, [0x0069]⟩,
  ⟨0x2171, 0x2171, [0x0069, 0x0069]⟩, ⟨0x2172, 0x2172, [0x0069, 0x0069, 0x0069]⟩,
  ⟨0x2173, 0x2173, [0x0069, 0x0076]⟩, ⟨0x2174, 0x2174, [0x0076]⟩,
  ⟨0x2175, 0x2175, [0x0076, 0x0069]⟩, ⟨0x2176, 0x2176, [0x0076, 0x0069, 0x0069]⟩,
  ⟨0x2177, 0x2177, [0x0076, 0x0069, 0x0069, 0x0069]⟩, ⟨0x2178, 0x2178, [0x0069, 0x0078]⟩,
  ⟨0x2179, 0x2179, [0x0078]⟩, ⟨0x217A, 0x217A, [0x0078, 0x0069]⟩,
  ⟨0x217B, 0x217B, [0x0078, 0x0069, 0x0069]⟩, ⟨0x217C, 0x217C, [0x006C]⟩,
  ⟨0x217D, 0x217E, [0x0063]⟩, ⟨0x217F, 0x217F, [0x006D]⟩,
  ⟨0x2189, 0x2189, [0x0030, 0x2044, 0x0033]⟩, ⟨0x219A, 0x219A, [0x2190, 0x0338]⟩,
  ⟨0x219B, 0x219B, [0x2192, 0x0338]⟩, ⟨0x21AE, 0x21AE, [0x2194, 0x0338]⟩,
  ⟨0x21CD, 0x21CD, [0x21D0, 0x0338]⟩, ⟨0x21CE, 0x21CE, [0x21D4, 0x0338]⟩,
  ⟨0x21CF, 0x21CF, [0x21D2, 0x0338]⟩, ⟨0x2204, 0x2204, [0x2203, 0x0338]⟩,
  ⟨0x2209, 0x2209, [0x2208, 0x0338]⟩, ⟨0x220C, 0x220C, [0x220B, 0x0338]⟩,
  ⟨0x2224, 0x2224, [0x2223, 0x0338]⟩, ⟨0x2226, 0x2226, [0x2225, 0x0338]⟩,
  ⟨0x222C, 0x222C, [0x222B, 0x222B]⟩, ⟨0x222D, 0x222D, [0x222B, 0x222B, 0x222B]⟩,
  ⟨0x222F, 0x222F, [0x222E, 0x222E]⟩, ⟨0x2230, 0x2230, [0x222E, 0x222E, 0x222E]⟩,
  ⟨0x2241, 0x2241, [0x223C, 0x0338]⟩, ⟨0x2244, 0x2244, [0x2243, 0x0338]⟩,
  ⟨0x2247, 0x2247, [0x2245, 0x0338]⟩]

/-- Decompositions from 2249 to 2F75. -/
def from2249 : List Mapping := [
  ⟨0x2249, 0x2249, [0x2248, 0x0338]⟩, ⟨0x2260, 0x2260, [0x003D, 0x0338]⟩,
  ⟨0x2262, 0x2262, [0x2261, 0x0338]⟩, ⟨0x226D, 0x226D, [0x224D, 0x0338]⟩,
  ⟨0x226E, 0x226E, [0x003C, 0x0338]⟩, ⟨0x226F, 0x226F, [0x003E, 0x0338]⟩,
  ⟨0x2270, 0x2270, [0x2264, 0x0338]⟩, ⟨0x2271, 0x2271, [0x2265, 0x0338]⟩,
  ⟨0x2274, 0x2274, [0x2272, 0x0338]⟩, ⟨0x2275, 0x2275, [0x2273, 0x0338]⟩,
  ⟨0x2278, 0x2278, [0x2276, 0x0338]⟩, ⟨0x2279, 0x2279, [0x2277, 0x0338]⟩,
  ⟨0x2280, 0x2280, [0x227A, 0x0338]⟩, ⟨0x2281, 0x2281, [0x227B, 0x0338]⟩,
  ⟨0x2284, 0x2284, [0x2282, 0x0338]⟩, ⟨0x2285, 0x2285, [0x2283, 0x0338]⟩,
  ⟨0x2288, 0x2288, [0x2286, 0x0338]⟩, ⟨0x2289, 0x2289, [0x2287, 0x0338]⟩,
  ⟨0x22AC, 0x22AC, [0x22A2, 0x0338]⟩, ⟨0x22AD, 0x22AD, [0x22A8, 0x0338]⟩,
  ⟨0x22AE, 0x22AE, [0x22A9, 0x0338]⟩, ⟨0x22AF, 0x22AF, [0x22AB, 0x0338]⟩,
  ⟨0x22E0, 0x22E0, [0x227C, 0x0338]⟩, ⟨0x22E1, 0x22E1, [0x227D, 0x0338]⟩,
  ⟨0x22E2, 0x22E2, [0x2291, 0x0338]⟩, ⟨0x22E3, 0x22E3, [0x2292, 0x0338]⟩,
  ⟨0x22EA, 0x22EA, [0x22B2, 0x0338]⟩, ⟨0x22EB, 0x22EB, [0x22B3, 0x0338]⟩,
  ⟨0x22EC, 0x22EC, [0x22B4, 0x0338]⟩, ⟨0x22ED, 0x22ED, [0x22B5, 0x0338]⟩,
  ⟨0x2329, 0x232A, [0x3008]⟩, ⟨0x2460, 0x2468, [0x0031]⟩, ⟨0x2469, 0x2469, [0x0031, 0x0030]⟩,
  ⟨0x246A, 0x246A, [0x0031, 0x0031]⟩, ⟨0x246B, 0x246B, [0x0031, 0x0032]⟩,
  ⟨0x246C, 0x246C, [0x0031, 0x0033]⟩, ⟨0x246D, 0x246D, [0x0031, 0x0034]⟩,
  ⟨0x246E, 0x246E, [0x0031, 0x0035]⟩, ⟨0x246F, 0x246F, [0x0031, 0x0036]⟩,
  ⟨0x2470, 0x2470, [0x0031, 0x0037]⟩, ⟨0x2471, 0x2471, [0x0031, 0x0038]⟩,
  ⟨0x2472, 0x2472, [0x0031, 0x0039]⟩, ⟨0x2473, 0x2473, [0x0032, 0x0030]⟩,
  ⟨0x2474, 0x2474, [0x0028, 0x0031, 0x0029]⟩, ⟨0x2475, 0x2475, [0x0028, 0x0032, 0x0029]⟩,
  ⟨0x2476, 0x2476, [0x0028, 0x0033, 0x0029]⟩, ⟨0x2477, 0x2477, [0x0028, 0x0034, 0x0029]⟩,
  ⟨0x2478, 0x2478, [0x0028, 0x0035, 0x0029]⟩, ⟨0x2479, 0x2479, [0x0028, 0x0036, 0x0029]⟩,
  ⟨0x247A, 0x247A, [0x0028, 0x0037, 0x0029]⟩, ⟨0x247B, 0x247B, [0x0028, 0x0038, 0x0029]⟩,
  ⟨0x247C, 0x247C, [0x0028, 0x0039, 0x0029]⟩, ⟨0x247D, 0x247D, [0x0028, 0x0031, 0x0030, 0x0029]⟩,
  ⟨0x247E, 0x247E, [0x0028, 0x0031, 0x0031, 0x0029]⟩,
  ⟨0x247F, 0x247F, [0x0028, 0x0031, 0x0032, 0x0029]⟩,
  ⟨0x2480, 0x2480, [0x0028, 0x0031, 0x0033, 0x0029]⟩,
  ⟨0x2481, 0x2481, [0x0028, 0x0031, 0x0034, 0x0029]⟩,
  ⟨0x2482, 0x2482, [0x0028, 0x0031, 0x0035, 0x0029]⟩,
  ⟨0x2483, 0x2483, [0x0028, 0x0031, 0x0036, 0x0029]⟩,
  ⟨0x2484, 0x2484, [0x0028, 0x0031, 0x0037, 0x0029]⟩,
  ⟨0x2485, 0x2485, [0x0028, 0x0031, 0x0038, 0x0029]⟩,
  ⟨0x2486, 0x2486, [0x0028, 0x0031, 0x0039, 0x0029]⟩,
  ⟨0x2487, 0x2487, [0x0028, 0x0032, 0x0030, 0x0029]⟩, ⟨0x2488, 0x2488, [0x0031, 0x002E]⟩,
  ⟨0x2489, 0x2489, [0x0032, 0x002E]⟩, ⟨0x248A, 0x248A, [0x0033, 0x002E]⟩,
  ⟨0x248B, 0x248B, [0x0034, 0x002E]⟩, ⟨0x248C, 0x248C, [0x0035, 0x002E]⟩,
  ⟨0x248D, 0x248D, [0x0036, 0x002E]⟩, ⟨0x248E, 0x248E, [0x0037, 0x002E]⟩,
  ⟨0x248F, 0x248F, [0x0038, 0x002E]⟩, ⟨0x2490, 0x2490, [0x0039, 0x002E]⟩,
  ⟨0x2491, 0x2491, [0x0031, 0x0030, 0x002E]⟩, ⟨0x2492, 0x2492, [0x0031, 0x0031, 0x002E]⟩,
  ⟨0x2493, 0x2493, [0x0031, 0x0032, 0x002E]⟩, ⟨0x2494, 0x2494, [0x0031, 0x0033, 0x002E]⟩,
  ⟨0x2495, 0x2495, [0x0031, 0x0034, 0x002E]⟩, ⟨0x2496, 0x2496, [0x0031, 0x0035, 0x002E]⟩,
  ⟨0x2497, 0x2497, [0x0031, 0x0036, 0x002E]⟩, ⟨0x2498, 0x2498, [0x0031, 0x0037, 0x002E]⟩,
  ⟨0x2499, 0x2499, [0x0031, 0x0038, 0x002E]⟩, ⟨0x249A, 0x249A, [0x0031, 0x0039, 0x002E]⟩,
  ⟨0x249B, 0x249B, [0x0032, 0x0030, 0x002E]⟩, ⟨0x249C, 0x249C, [0x0028, 0x0061, 0x0029]⟩,
  ⟨0x249D, 0x249D, [0x0028, 0x0062, 0x0029]⟩, ⟨0x249E, 0x249E, [0x0028, 0x0063, 0x0029]⟩,
  ⟨0x249F, 0x249F, [0x0028, 0x0064, 0x0029]⟩, ⟨0x24A0, 0x24A0, [0x0028, 0x0065, 0x0029]⟩,
  ⟨0x24A1, 0x24A1, [0x0028, 0x0066, 0x0029]⟩, ⟨0x24A2, 0x24A2, [0x0028, 0x0067, 0x0029]⟩,
  ⟨0x24A3, 0x24A3, [0x0028, 0x0068, 0x0029]⟩, ⟨0x24A4, 0x24A4, [0x0028, 0x0069, 0x0029]⟩,
  ⟨0x24A5, 0x24A5, [0x0028, 0x006A, 0x0029]⟩, ⟨0x24A6, 0x24A6, [0x0028, 0x006B, 0x0029]⟩,
  ⟨0x24A7, 0x24A7, [0x0028, 0x006C, 0x0029]⟩, ⟨0x24A8, 0x24A8, [0x0028, 0x006D, 0x0029]⟩,
  ⟨0x24A9, 0x24A9, [0x0028, 0x006E, 0x0029]⟩, ⟨0x24AA, 0x24AA, [0x0028, 0x006F, 0x0029]⟩,
  ⟨0x24AB, 0x24AB, [0x0028, 0x0070, 0x0029]⟩, ⟨0x24AC, 0x24AC, [0x0028, 0x0071, 0x0029]⟩,
  ⟨0x24AD, 0x24AD, [0x0028, 0x0072, 0x0029]⟩, ⟨0x24AE, 0x24AE, [0x0028, 0x0073, 0x0029]⟩,
  ⟨0x24AF, 0x24AF, [0x0028, 0x0074, 0x0029]⟩, ⟨0x24B0, 0x24B0, [0x0028, 0x0075, 0x0029]⟩,
  ⟨0x24B1, 0x24B1, [0x0028, 0x0076, 0x0029]⟩, ⟨0x24B2, 0x24B2, [0x0028, 0x0077, 0x0029]⟩,
  ⟨0x24B3, 0x24B3, [0x0028, 0x0078, 0x0029]⟩, ⟨0x24B4, 0x24B4, [0x0028, 0x0079, 0x0029]⟩,
  ⟨0x24B5, 0x24B5, [0x0028, 0x007A, 0x0029]⟩, ⟨0x24B6, 0x24CF, [0x0041]⟩,
  ⟨0x24D0, 0x24E9, [0x0061]⟩, ⟨0x24EA, 0x24EA, [0x0030]⟩,
  ⟨0x2A0C, 0x2A0C, [0x222B, 0x222B, 0x222B, 0x222B]⟩, ⟨0x2A74, 0x2A74, [0x003A, 0x003A, 0x003D]⟩,
  ⟨0x2A75, 0x2A75, [0x003D, 0x003D]⟩, ⟨0x2A76, 0x2A76, [0x003D, 0x003D, 0x003D]⟩,
  ⟨0x2ADC, 0x2ADC, [0x2ADD, 0x0338]⟩, ⟨0x2C7C, 0x2C7C, [0x006A]⟩, ⟨0x2C7D, 0x2C7D, [0x0056]⟩,
  ⟨0x2D6F, 0x2D6F, [0x2D61]⟩, ⟨0x2E9F, 0x2E9F, [0x6BCD]⟩, ⟨0x2EF3, 0x2EF3, [0x9F9F]⟩,
  ⟨0x2F00, 0x2F00, [0x4E00]⟩, ⟨0x2F01, 0x2F01, [0x4E28]⟩, ⟨0x2F02, 0x2F02, [0x4E36]⟩,
  ⟨0x2F03, 0x2F03, [0x4E3F]⟩, ⟨0x2F04, 0x2F04, [0x4E59]⟩, ⟨0x2F05, 0x2F05, [0x4E85]⟩,
  ⟨0x2F06, 0x2F06, [0x4E8C]⟩, ⟨0x2F07, 0x2F07, [0x4EA0]⟩, ⟨0x2F08, 0x2F08, [0x4EBA]⟩,
  ⟨0x2F09, 0x2F09, [0x513F]⟩, ⟨0x2F0A, 0x2F0A, [0x5165]⟩, ⟨0x2F0B, 0x2F0B, [0x516B]⟩,
  ⟨0x2F0C, 0x2F0C, [0x5182]⟩, ⟨0x2F0D, 0x2F0D, [0x5196]⟩, ⟨0x2F0E, 0x2F0E, [0x51AB]⟩,
  ⟨0x2F0F, 0x2F0F, [0x51E0]⟩, ⟨0x2F10, 0x2F10, [0x51F5]⟩, ⟨0x2F11, 0x2F11, [0x5200]⟩,
  ⟨0x2F12, 0x2F12, [0x529B]⟩, ⟨0x2F13, 0x2F13, [0x52F9]⟩, ⟨0x2F14, 0x2F14, [0x5315]⟩,
  ⟨0x2F15, 0x2F15, [0x531A]⟩, ⟨0x2F16, 0x2F16, [0x5338]⟩, ⟨0x2F17, 0x2F17, [0x5341]⟩,
  ⟨0x2F18, 0x2F18, [0x535C]⟩, ⟨0x2F19, 0x2F19, [0x5369]⟩, ⟨0x2F1A, 0x2F1A, [0x5382]⟩,
  ⟨0x2F1B, 0x2F1B, [0x53B6]⟩, ⟨0x2F1C, 0x2F1C, [0x53C8]⟩, ⟨0x2F1D, 0x2F1D, [0x53E3]⟩,
  ⟨0x2F1E, 0x2F1E, [0x56D7]⟩, ⟨0x2F1F, 0x2F1F, [0x571F]⟩, ⟨0x2F20, 0x2F20, [0x58EB]⟩,
  ⟨0x2F21, 0x2F21, [0x5902]⟩, ⟨0x2F22, 0x2F22, [0x590A]⟩, ⟨0x2F23, 0x2F23, [0x5915]⟩,
  ⟨0x2F24, 0x2F24, [0x5927]⟩, ⟨0x2F25, 0x2F25, [0x5973]⟩, ⟨0x2F26, 0x2F26, [0x5B50]⟩,
  ⟨0x2F27, 0x2F27, [0x5B80]⟩, ⟨0x2F28, 0x2F28, [0x5BF8]⟩, ⟨0x2F29, 0x2F29, [0x5C0F]⟩,
  ⟨0x2F2A, 0x2F2A, [0x5C22]⟩, ⟨0x2F2B, 0x2F2B, [0x5C38]⟩, ⟨0x2F2C, 0x2F2C, [0x5C6E]⟩,
  ⟨0x2F2D, 0x2F2D, [0x5C71]⟩, ⟨0x2F2E, 0x2F2E, [0x5DDB]⟩, ⟨0x2F2F, 0x2F2F, [0x5DE5]⟩,
  ⟨0x2F30, 0x2F30, [0x5DF1]⟩, ⟨0x2F31, 0x2F31, [0x5DFE]⟩, ⟨0x2F32, 0x2F32, [0x5E72]⟩,
  ⟨0x2F33, 0x2F33, [0x5E7A]⟩, ⟨0x2F34, 0x2F34, [0x5E7F]⟩, ⟨0x2F35, 0x2F35, [0x5EF4]⟩,
  ⟨0x2F36, 0x2F36, [0x5EFE]⟩, ⟨0x2F37, 0x2F37, [0x5F0B]⟩, ⟨0x2F38, 0x2F38, [0x5F13]⟩,
  ⟨0x2F39, 0x2F39, [0x5F50]⟩, ⟨0x2F3A, 0x2F3A, [0x5F61]⟩, ⟨0x2F3B, 0x2F3B, [0x5F73]⟩,
  ⟨0x2F3C, 0x2F3C, [0x5FC3]⟩, ⟨0x2F3D, 0x2F3D, [0x6208]⟩, ⟨0x2F3E, 0x2F3E, [0x6236]⟩,
  ⟨0x2F3F, 0x2F3F, [0x624B]⟩, ⟨0x2F40, 0x2F40, [0x652F]⟩, ⟨0x2F41, 0x2F41, [0x6534]⟩,
  ⟨0x2F42, 0x2F42, [0x6587]⟩, ⟨0x2F43, 0x2F43, [0x6597]⟩, ⟨0x2F44, 0x2F44, [0x65A4]⟩,
  ⟨0x2F45, 0x2F45, [0x65B9]⟩, ⟨0x2F46, 0x2F46, [0x65E0]⟩, ⟨0x2F47, 0x2F47, [0x65E5]⟩,
  ⟨0x2F48, 0x2F48, [0x66F0]⟩, ⟨0x2F49, 0x2F49, [0x6708]⟩, ⟨0x2F4A, 0x2F4A, [0x6728]⟩,
  ⟨0x2F4B, 0x2F4B, [0x6B20]⟩, ⟨0x2F4C, 0x2F4C, [0x6B62]⟩, ⟨0x2F4D, 0x2F4D, [0x6B79]⟩,
  ⟨0x2F4E, 0x2F4E, [0x6BB3]⟩, ⟨0x2F4F, 0x2F4F, [0x6BCB]⟩, ⟨0x2F50, 0x2F50, [0x6BD4]⟩,
  ⟨0x2F51, 0x2F51, [0x6BDB]⟩, ⟨0x2F52, 0x2F52, [0x6C0F]⟩, ⟨0x2F53, 0x2F53, [0x6C14]⟩,
  ⟨0x2F54, 0x2F54, [0x6C34]⟩, ⟨0x2F55, 0x2F55, [0x706B]⟩, ⟨0x2F56, 0x2F56, [0x722A]⟩,
  ⟨0x2F57, 0x2F57, [0x7236]⟩, ⟨0x2F58, 0x2F58, [0x723B]⟩, ⟨0x2F59, 0x2F59, [0x723F]⟩,
  ⟨0x2F5A, 0x2F5A, [0x7247]⟩, ⟨0x2F5B, 0x2F5B, [0x7259]⟩, ⟨0x2F5C, 0x2F5C, [0x725B]⟩,
  ⟨0x2F5D, 0x2F5D, [0x72AC]⟩, ⟨0x2F5E, 0x2F5E, [0x7384]⟩, ⟨0x2F5F, 0x2F5F, [0x7389]⟩,
  ⟨0x2F60, 0x2F60, [0x74DC]⟩, ⟨0x2F61, 0x2F61, [0x74E6]⟩, ⟨0x2F62, 0x2F62, [0x7518]⟩,
  ⟨0x2F63, 0x2F63, [0x751F]⟩, ⟨0x2F64, 0x2F64, [0x7528]⟩, ⟨0x2F65, 0x2F65, [0x7530]⟩,
  ⟨0x2F66, 0x2F66, [0x758B]⟩, ⟨0x2F67, 0x2F67, [0x7592]⟩, ⟨0x2F68, 0x2F68, [0x7676]⟩,
  ⟨0x2F69, 0x2F69, [0x767D]⟩, ⟨0x2F6A, 0x2F6A, [0x76AE]⟩, ⟨0x2F6B, 0x2F6B, [0x76BF]⟩,
  ⟨0x2F6C, 0x2F6C, [0x76EE]⟩, ⟨0x2F6D, 0x2F6D, [0x77DB]⟩, ⟨0x2F6E, 0x2F6E, [0x77E2]⟩,
  ⟨0x2F6F, 0x2F6F, [0x77F3]⟩, ⟨0x2F70, 0x2F70, [0x793A]⟩, ⟨0x2F71, 0x2F71, [0x79B8]⟩,
  ⟨0x2F72, 0x2F72, [0x79BE]⟩, ⟨0x2F73, 0x2F73, [0x7A74]⟩, ⟨0x2F74, 0x2F74, [0x7ACB]⟩,
  ⟨0x2F75, 0x2F75, [0x7AF9]⟩]

end Decompositions
end Text
end Reckoner
