/-!
# Characters of domain names

How the characters of a name are mapped, which compose to one, which a name drops and which it does
not hold.  The tables cover the alphabetic scripts up to U+1FFF, letterlike signs and full-width
forms.
-/

namespace SignOn.DomainName

/-- A run of mapped characters: the first, the last, the step between two of them and the image of
the first. -/
structure Run where
  first : Nat
  last : Nat
  step : Nat
  image : List Nat

/-- What characters are mapped to. -/
def runs : List Run :=
  [⟨0xA0, 0xA0, 1, [0x20]⟩, ⟨0xA8, 0xA8, 1, [0x20, 0x308]⟩, ⟨0xAA, 0xAA, 1, [0x61]⟩,
    ⟨0xAF, 0xAF, 1, [0x20, 0x304]⟩, ⟨0xB2, 0xB3, 1, [0x32]⟩, ⟨0xB4, 0xB4, 1, [0x20, 0x301]⟩,
    ⟨0xB5, 0xB5, 1, [0x3BC]⟩, ⟨0xB8, 0xB8, 1, [0x20, 0x327]⟩, ⟨0xB9, 0xB9, 1, [0x31]⟩,
    ⟨0xBA, 0xBA, 1, [0x6F]⟩, ⟨0xBC, 0xBC, 1, [0x31, 0x2044, 0x34]⟩,
    ⟨0xBD, 0xBD, 1, [0x31, 0x2044, 0x32]⟩, ⟨0xBE, 0xBE, 1, [0x33, 0x2044, 0x34]⟩,
    ⟨0xC0, 0xD6, 1, [0xE0]⟩, ⟨0xD8, 0xDE, 1, [0xF8]⟩, ⟨0x100, 0x12E, 2, [0x101]⟩,
    ⟨0x130, 0x130, 1, [0x69, 0x307]⟩, ⟨0x132, 0x132, 1, [0x69, 0x6A]⟩,
    ⟨0x133, 0x133, 1, [0x69, 0x6A]⟩, ⟨0x134, 0x136, 2, [0x135]⟩, ⟨0x139, 0x13D, 2, [0x13A]⟩,
    ⟨0x13F, 0x13F, 1, [0x6C, 0xB7]⟩, ⟨0x140, 0x140, 1, [0x6C, 0xB7]⟩, ⟨0x141, 0x147, 2, [0x142]⟩,
    ⟨0x149, 0x149, 1, [0x2BC, 0x6E]⟩, ⟨0x14A, 0x176, 2, [0x14B]⟩, ⟨0x178, 0x178, 1, [0xFF]⟩,
    ⟨0x179, 0x17D, 2, [0x17A]⟩, ⟨0x17F, 0x17F, 1, [0x73]⟩, ⟨0x181, 0x181, 1, [0x253]⟩,
    ⟨0x182, 0x184, 2, [0x183]⟩, ⟨0x186, 0x186, 1, [0x254]⟩, ⟨0x187, 0x187, 1, [0x188]⟩,
    ⟨0x189, 0x18A, 1, [0x256]⟩, ⟨0x18B, 0x18B, 1, [0x18C]⟩, ⟨0x18E, 0x18E, 1, [0x1DD]⟩,
    ⟨0x18F, 0x18F, 1, [0x259]⟩, ⟨0x190, 0x190, 1, [0x25B]⟩, ⟨0x191, 0x191, 1, [0x192]⟩,
    ⟨0x193, 0x193, 1, [0x260]⟩, ⟨0x194, 0x194, 1, [0x263]⟩, ⟨0x196, 0x196, 1, [0x269]⟩,
    ⟨0x197, 0x197, 1, [0x268]⟩, ⟨0x198, 0x198, 1, [0x199]⟩, ⟨0x19C, 0x19C, 1, [0x26F]⟩,
    ⟨0x19D, 0x19D, 1, [0x272]⟩, ⟨0x19F, 0x19F, 1, [0x275]⟩, ⟨0x1A0, 0x1A4, 2, [0x1A1]⟩,
    ⟨0x1A6, 0x1A6, 1, [0x280]⟩, ⟨0x1A7, 0x1A7, 1, [0x1A8]⟩, ⟨0x1A9, 0x1A9, 1, [0x283]⟩,
    ⟨0x1AC, 0x1AC, 1, [0x1AD]⟩, ⟨0x1AE, 0x1AE, 1, [0x288]⟩, ⟨0x1AF, 0x1AF, 1, [0x1B0]⟩,
    ⟨0x1B1, 0x1B2, 1, [0x28A]⟩, ⟨0x1B3, 0x1B5, 2, [0x1B4]⟩, ⟨0x1B7, 0x1B7, 1, [0x292]⟩,
    ⟨0x1B8, 0x1B8, 1, [0x1B9]⟩, ⟨0x1BC, 0x1BC, 1, [0x1BD]⟩, ⟨0x1C4, 0x1C4, 1, [0x64, 0x17E]⟩,
    ⟨0x1C5, 0x1C5, 1, [0x64, 0x17E]⟩, ⟨0x1C6, 0x1C6, 1, [0x64, 0x17E]⟩,
    ⟨0x1C7, 0x1C7, 1, [0x6C, 0x6A]⟩, ⟨0x1C8, 0x1C8, 1, [0x6C, 0x6A]⟩,
    ⟨0x1C9, 0x1C9, 1, [0x6C, 0x6A]⟩, ⟨0x1CA, 0x1CA, 1, [0x6E, 0x6A]⟩,
    ⟨0x1CB, 0x1CB, 1, [0x6E, 0x6A]⟩, ⟨0x1CC, 0x1CC, 1, [0x6E, 0x6A]⟩, ⟨0x1CD, 0x1DB, 2, [0x1CE]⟩,
    ⟨0x1DE, 0x1EE, 2, [0x1DF]⟩, ⟨0x1F1, 0x1F1, 1, [0x64, 0x7A]⟩, ⟨0x1F2, 0x1F2, 1, [0x64, 0x7A]⟩,
    ⟨0x1F3, 0x1F3, 1, [0x64, 0x7A]⟩, ⟨0x1F4, 0x1F4, 1, [0x1F5]⟩, ⟨0x1F6, 0x1F6, 1, [0x195]⟩,
    ⟨0x1F7, 0x1F7, 1, [0x1BF]⟩, ⟨0x1F8, 0x21E, 2, [0x1F9]⟩, ⟨0x220, 0x220, 1, [0x19E]⟩,
    ⟨0x222, 0x232, 2, [0x223]⟩, ⟨0x23A, 0x23A, 1, [0x2C65]⟩, ⟨0x23B, 0x23B, 1, [0x23C]⟩,
    ⟨0x23D, 0x23D, 1, [0x19A]⟩, ⟨0x23E, 0x23E, 1, [0x2C66]⟩, ⟨0x241, 0x241, 1, [0x242]⟩,
    ⟨0x243, 0x243, 1, [0x180]⟩, ⟨0x244, 0x244, 1, [0x289]⟩, ⟨0x245, 0x245, 1, [0x28C]⟩,
    ⟨0x246, 0x24E, 2, [0x247]⟩, ⟨0x2B0, 0x2B0, 1, [0x68]⟩, ⟨0x2B1, 0x2B1, 1, [0x266]⟩,
    ⟨0x2B2, 0x2B2, 1, [0x6A]⟩, ⟨0x2B3, 0x2B3, 1, [0x72]⟩, ⟨0x2B4, 0x2B4, 1, [0x279]⟩,
    ⟨0x2B5, 0x2B5, 1, [0x27B]⟩, ⟨0x2B6, 0x2B6, 1, [0x281]⟩, ⟨0x2B7, 0x2B7, 1, [0x77]⟩,
    ⟨0x2B8, 0x2B8, 1, [0x79]⟩, ⟨0x2D8, 0x2D8, 1, [0x20, 0x306]⟩, ⟨0x2D9, 0x2D9, 1, [0x20, 0x307]⟩,
    ⟨0x2DA, 0x2DA, 1, [0x20, 0x30A]⟩, ⟨0x2DB, 0x2DB, 1, [0x20, 0x328]⟩,
    ⟨0x2DC, 0x2DC, 1, [0x20, 0x303]⟩, ⟨0x2DD, 0x2DD, 1, [0x20, 0x30B]⟩,
    ⟨0x2E0, 0x2E0, 1, [0x263]⟩, ⟨0x2E1, 0x2E1, 1, [0x6C]⟩, ⟨0x2E2, 0x2E2, 1, [0x73]⟩,
    ⟨0x2E3, 0x2E3, 1, [0x78]⟩, ⟨0x2E4, 0x2E4, 1, [0x295]⟩, ⟨0x340, 0x341, 1, [0x300]⟩,
    ⟨0x343, 0x343, 1, [0x313]⟩, ⟨0x344, 0x344, 1, [0x308, 0x301]⟩, ⟨0x345, 0x345, 1, [0x3B9]⟩,
    ⟨0x370, 0x372, 2, [0x371]⟩, ⟨0x374, 0x374, 1, [0x2B9]⟩, ⟨0x376, 0x376, 1, [0x377]⟩,
    ⟨0x37A, 0x37A, 1, [0x20, 0x3B9]⟩, ⟨0x37E, 0x37E, 1, [0x3B]⟩, ⟨0x37F, 0x37F, 1, [0x3F3]⟩,
    ⟨0x384, 0x384, 1, [0x20, 0x301]⟩, ⟨0x385, 0x385, 1, [0x20, 0x308, 0x301]⟩,
    ⟨0x386, 0x386, 1, [0x3AC]⟩, ⟨0x387, 0x387, 1, [0xB7]⟩, ⟨0x388, 0x38A, 1, [0x3AD]⟩,
    ⟨0x38C, 0x38C, 1, [0x3CC]⟩, ⟨0x38E, 0x38F, 1, [0x3CD]⟩, ⟨0x391, 0x3A1, 1, [0x3B1]⟩,
    ⟨0x3A3, 0x3AB, 1, [0x3C3]⟩, ⟨0x3CF, 0x3CF, 1, [0x3D7]⟩, ⟨0x3D0, 0x3D0, 1, [0x3B2]⟩,
    ⟨0x3D1, 0x3D1, 1, [0x3B8]⟩, ⟨0x3D2, 0x3D2, 1, [0x3C5]⟩, ⟨0x3D3, 0x3D3, 1, [0x3CD]⟩,
    ⟨0x3D4, 0x3D4, 1, [0x3CB]⟩, ⟨0x3D5, 0x3D5, 1, [0x3C6]⟩, ⟨0x3D6, 0x3D6, 1, [0x3C0]⟩,
    ⟨0x3D8, 0x3EE, 2, [0x3D9]⟩, ⟨0x3F0, 0x3F0, 1, [0x3BA]⟩, ⟨0x3F1, 0x3F1, 1, [0x3C1]⟩,
    ⟨0x3F2, 0x3F2, 1, [0x3C3]⟩, ⟨0x3F4, 0x3F4, 1, [0x3B8]⟩, ⟨0x3F5, 0x3F5, 1, [0x3B5]⟩,
    ⟨0x3F7, 0x3F7, 1, [0x3F8]⟩, ⟨0x3F9, 0x3F9, 1, [0x3C3]⟩, ⟨0x3FA, 0x3FA, 1, [0x3FB]⟩,
    ⟨0x3FD, 0x3FF, 1, [0x37B]⟩, ⟨0x400, 0x40F, 1, [0x450]⟩, ⟨0x410, 0x42F, 1, [0x430]⟩,
    ⟨0x460, 0x480, 2, [0x461]⟩, ⟨0x48A, 0x4BE, 2, [0x48B]⟩, ⟨0x4C0, 0x4C0, 1, [0x4CF]⟩,
    ⟨0x4C1, 0x4CD, 2, [0x4C2]⟩, ⟨0x4D0, 0x52E, 2, [0x4D1]⟩, ⟨0x531, 0x556, 1, [0x561]⟩,
    ⟨0x587, 0x587, 1, [0x565, 0x582]⟩, ⟨0x675, 0x675, 1, [0x627, 0x674]⟩,
    ⟨0x676, 0x676, 1, [0x648, 0x674]⟩, ⟨0x677, 0x677, 1, [0x6C7, 0x674]⟩,
    ⟨0x678, 0x678, 1, [0x64A, 0x674]⟩, ⟨0x958, 0x958, 1, [0x915, 0x93C]⟩,
    ⟨0x959, 0x959, 1, [0x916, 0x93C]⟩, ⟨0x95A, 0x95A, 1, [0x917, 0x93C]⟩,
    ⟨0x95B, 0x95B, 1, [0x91C, 0x93C]⟩, ⟨0x95C, 0x95C, 1, [0x921, 0x93C]⟩,
    ⟨0x95D, 0x95D, 1, [0x922, 0x93C]⟩, ⟨0x95E, 0x95E, 1, [0x92B, 0x93C]⟩,
    ⟨0x95F, 0x95F, 1, [0x92F, 0x93C]⟩, ⟨0x9DC, 0x9DC, 1, [0x9A1, 0x9BC]⟩,
    ⟨0x9DD, 0x9DD, 1, [0x9A2, 0x9BC]⟩, ⟨0x9DF, 0x9DF, 1, [0x9AF, 0x9BC]⟩,
    ⟨0xA33, 0xA33, 1, [0xA32, 0xA3C]⟩, ⟨0xA36, 0xA36, 1, [0xA38, 0xA3C]⟩,
    ⟨0xA59, 0xA59, 1, [0xA16, 0xA3C]⟩, ⟨0xA5A, 0xA5A, 1, [0xA17, 0xA3C]⟩,
    ⟨0xA5B, 0xA5B, 1, [0xA1C, 0xA3C]⟩, ⟨0xA5E, 0xA5E, 1, [0xA2B, 0xA3C]⟩,
    ⟨0xB5C, 0xB5C, 1, [0xB21, 0xB3C]⟩, ⟨0xB5D, 0xB5D, 1, [0xB22, 0xB3C]⟩,
    ⟨0xE33, 0xE33, 1, [0xE4D, 0xE32]⟩, ⟨0xEB3, 0xEB3, 1, [0xECD, 0xEB2]⟩,
    ⟨0xEDC, 0xEDC, 1, [0xEAB, 0xE99]⟩, ⟨0xEDD, 0xEDD, 1, [0xEAB, 0xEA1]⟩,
    ⟨0xF0C, 0xF0C, 1, [0xF0B]⟩, ⟨0xF43, 0xF43, 1, [0xF42, 0xFB7]⟩,
    ⟨0xF4D, 0xF4D, 1, [0xF4C, 0xFB7]⟩, ⟨0xF52, 0xF52, 1, [0xF51, 0xFB7]⟩,
    ⟨0xF57, 0xF57, 1, [0xF56, 0xFB7]⟩, ⟨0xF5C, 0xF5C, 1, [0xF5B, 0xFB7]⟩,
    ⟨0xF69, 0xF69, 1, [0xF40, 0xFB5]⟩, ⟨0xF73, 0xF73, 1, [0xF71, 0xF72]⟩,
    ⟨0xF75, 0xF75, 1, [0xF71, 0xF74]⟩, ⟨0xF76, 0xF76, 1, [0xFB2, 0xF80]⟩,
    ⟨0xF77, 0xF77, 1, [0xFB2, 0xF71, 0xF80]⟩, ⟨0xF78, 0xF78, 1, [0xFB3, 0xF80]⟩,
    ⟨0xF79, 0xF79, 1, [0xFB3, 0xF71, 0xF80]⟩, ⟨0xF81, 0xF81, 1, [0xF71, 0xF80]⟩,
    ⟨0xF93, 0xF93, 1, [0xF92, 0xFB7]⟩, ⟨0xF9D, 0xF9D, 1, [0xF9C, 0xFB7]⟩,
    ⟨0xFA2, 0xFA2, 1, [0xFA1, 0xFB7]⟩, ⟨0xFA7, 0xFA7, 1, [0xFA6, 0xFB7]⟩,
    ⟨0xFAC, 0xFAC, 1, [0xFAB, 0xFB7]⟩, ⟨0xFB9, 0xFB9, 1, [0xF90, 0xFB5]⟩,
    ⟨0x10A0, 0x10C5, 1, [0x2D00]⟩, ⟨0x10C7, 0x10C7, 1, [0x2D27]⟩, ⟨0x10CD, 0x10CD, 1, [0x2D2D]⟩,
    ⟨0x10FC, 0x10FC, 1, [0x10DC]⟩, ⟨0x13F8, 0x13FD, 1, [0x13F0]⟩, ⟨0x1C80, 0x1C80, 1, [0x432]⟩,
    ⟨0x1C81, 0x1C81, 1, [0x434]⟩, ⟨0x1C82, 0x1C82, 1, [0x43E]⟩, ⟨0x1C83, 0x1C84, 1, [0x441]⟩,
    ⟨0x1C85, 0x1C85, 1, [0x442]⟩, ⟨0x1C86, 0x1C86, 1, [0x44A]⟩, ⟨0x1C87, 0x1C87, 1, [0x463]⟩,
    ⟨0x1C88, 0x1C88, 1, [0xA64B]⟩, ⟨0x1C90, 0x1CBA, 1, [0x10D0]⟩, ⟨0x1CBD, 0x1CBF, 1, [0x10FD]⟩,
    ⟨0x1D2C, 0x1D2C, 1, [0x61]⟩, ⟨0x1D2D, 0x1D2D, 1, [0xE6]⟩, ⟨0x1D2E, 0x1D30, 2, [0x62]⟩,
    ⟨0x1D31, 0x1D31, 1, [0x65]⟩, ⟨0x1D32, 0x1D32, 1, [0x1DD]⟩, ⟨0x1D33, 0x1D3A, 1, [0x67]⟩,
    ⟨0x1D3C, 0x1D3C, 1, [0x6F]⟩, ⟨0x1D3D, 0x1D3D, 1, [0x223]⟩, ⟨0x1D3E, 0x1D3E, 1, [0x70]⟩,
    ⟨0x1D3F, 0x1D3F, 1, [0x72]⟩, ⟨0x1D40, 0x1D41, 1, [0x74]⟩, ⟨0x1D42, 0x1D42, 1, [0x77]⟩,
    ⟨0x1D43, 0x1D43, 1, [0x61]⟩, ⟨0x1D44, 0x1D45, 1, [0x250]⟩, ⟨0x1D46, 0x1D46, 1, [0x1D02]⟩,
    ⟨0x1D47, 0x1D47, 1, [0x62]⟩, ⟨0x1D48, 0x1D49, 1, [0x64]⟩, ⟨0x1D4A, 0x1D4A, 1, [0x259]⟩,
    ⟨0x1D4B, 0x1D4C, 1, [0x25B]⟩, ⟨0x1D4D, 0x1D4D, 1, [0x67]⟩, ⟨0x1D4F, 0x1D4F, 1, [0x6B]⟩,
    ⟨0x1D50, 0x1D50, 1, [0x6D]⟩, ⟨0x1D51, 0x1D51, 1, [0x14B]⟩, ⟨0x1D52, 0x1D52, 1, [0x6F]⟩,
    ⟨0x1D53, 0x1D53, 1, [0x254]⟩, ⟨0x1D54, 0x1D55, 1, [0x1D16]⟩, ⟨0x1D56, 0x1D56, 1, [0x70]⟩,
    ⟨0x1D57, 0x1D58, 1, [0x74]⟩, ⟨0x1D59, 0x1D59, 1, [0x1D1D]⟩, ⟨0x1D5A, 0x1D5A, 1, [0x26F]⟩,
    ⟨0x1D5B, 0x1D5B, 1, [0x76]⟩, ⟨0x1D5C, 0x1D5C, 1, [0x1D25]⟩, ⟨0x1D5D, 0x1D5F, 1, [0x3B2]⟩,
    ⟨0x1D60, 0x1D61, 1, [0x3C6]⟩, ⟨0x1D62, 0x1D62, 1, [0x69]⟩, ⟨0x1D63, 0x1D63, 1, [0x72]⟩,
    ⟨0x1D64, 0x1D65, 1, [0x75]⟩, ⟨0x1D66, 0x1D67, 1, [0x3B2]⟩, ⟨0x1D68, 0x1D68, 1, [0x3C1]⟩,
    ⟨0x1D69, 0x1D6A, 1, [0x3C6]⟩, ⟨0x1D78, 0x1D78, 1, [0x43D]⟩, ⟨0x1D9B, 0x1D9B, 1, [0x252]⟩,
    ⟨0x1D9C, 0x1D9C, 1, [0x63]⟩, ⟨0x1D9D, 0x1D9D, 1, [0x255]⟩, ⟨0x1D9E, 0x1D9E, 1, [0xF0]⟩,
    ⟨0x1D9F, 0x1D9F, 1, [0x25C]⟩, ⟨0x1DA0, 0x1DA0, 1, [0x66]⟩, ⟨0x1DA1, 0x1DA1, 1, [0x25F]⟩,
    ⟨0x1DA2, 0x1DA2, 1, [0x261]⟩, ⟨0x1DA3, 0x1DA3, 1, [0x265]⟩, ⟨0x1DA4, 0x1DA6, 1, [0x268]⟩,
    ⟨0x1DA7, 0x1DA7, 1, [0x1D7B]⟩, ⟨0x1DA8, 0x1DA8, 1, [0x29D]⟩, ⟨0x1DA9, 0x1DA9, 1, [0x26D]⟩,
    ⟨0x1DAA, 0x1DAA, 1, [0x1D85]⟩, ⟨0x1DAB, 0x1DAB, 1, [0x29F]⟩, ⟨0x1DAC, 0x1DAC, 1, [0x271]⟩,
    ⟨0x1DAD, 0x1DAD, 1, [0x270]⟩, ⟨0x1DAE, 0x1DB1, 1, [0x272]⟩, ⟨0x1DB2, 0x1DB2, 1, [0x278]⟩,
    ⟨0x1DB3, 0x1DB4, 1, [0x282]⟩, ⟨0x1DB5, 0x1DB5, 1, [0x1AB]⟩, ⟨0x1DB6, 0x1DB7, 1, [0x289]⟩,
    ⟨0x1DB8, 0x1DB8, 1, [0x1D1C]⟩, ⟨0x1DB9, 0x1DBA, 1, [0x28B]⟩, ⟨0x1DBB, 0x1DBB, 1, [0x7A]⟩,
    ⟨0x1DBC, 0x1DBE, 1, [0x290]⟩, ⟨0x1DBF, 0x1DBF, 1, [0x3B8]⟩, ⟨0x1E00, 0x1E94, 2, [0x1E01]⟩,
    ⟨0x1E9A, 0x1E9A, 1, [0x61, 0x2BE]⟩, ⟨0x1E9B, 0x1E9B, 1, [0x1E61]⟩,
    ⟨0x1EA0, 0x1EFE, 2, [0x1EA1]⟩, ⟨0x1F08, 0x1F0F, 1, [0x1F00]⟩, ⟨0x1F18, 0x1F1D, 1, [0x1F10]⟩,
    ⟨0x1F28, 0x1F2F, 1, [0x1F20]⟩, ⟨0x1F38, 0x1F3F, 1, [0x1F30]⟩, ⟨0x1F48, 0x1F4D, 1, [0x1F40]⟩,
    ⟨0x1F59, 0x1F5F, 2, [0x1F51]⟩, ⟨0x1F68, 0x1F6F, 1, [0x1F60]⟩, ⟨0x1F71, 0x1F71, 1, [0x3AC]⟩,
    ⟨0x1F73, 0x1F73, 1, [0x3AD]⟩, ⟨0x1F75, 0x1F75, 1, [0x3AE]⟩, ⟨0x1F77, 0x1F77, 1, [0x3AF]⟩,
    ⟨0x1F79, 0x1F79, 1, [0x3CC]⟩, ⟨0x1F7B, 0x1F7B, 1, [0x3CD]⟩, ⟨0x1F7D, 0x1F7D, 1, [0x3CE]⟩,
    ⟨0x1F80, 0x1F80, 1, [0x1F00, 0x3B9]⟩, ⟨0x1F81, 0x1F81, 1, [0x1F01, 0x3B9]⟩,
    ⟨0x1F82, 0x1F82, 1, [0x1F02, 0x3B9]⟩, ⟨0x1F83, 0x1F83, 1, [0x1F03, 0x3B9]⟩,
    ⟨0x1F84, 0x1F84, 1, [0x1F04, 0x3B9]⟩, ⟨0x1F85, 0x1F85, 1, [0x1F05, 0x3B9]⟩,
    ⟨0x1F86, 0x1F86, 1, [0x1F06, 0x3B9]⟩, ⟨0x1F87, 0x1F87, 1, [0x1F07, 0x3B9]⟩,
    ⟨0x1F88, 0x1F88, 1, [0x1F00, 0x3B9]⟩, ⟨0x1F89, 0x1F89, 1, [0x1F01, 0x3B9]⟩,
    ⟨0x1F8A, 0x1F8A, 1, [0x1F02, 0x3B9]⟩, ⟨0x1F8B, 0x1F8B, 1, [0x1F03, 0x3B9]⟩,
    ⟨0x1F8C, 0x1F8C, 1, [0x1F04, 0x3B9]⟩, ⟨0x1F8D, 0x1F8D, 1, [0x1F05, 0x3B9]⟩,
    ⟨0x1F8E, 0x1F8E, 1, [0x1F06, 0x3B9]⟩, ⟨0x1F8F, 0x1F8F, 1, [0x1F07, 0x3B9]⟩,
    ⟨0x1F90, 0x1F90, 1, [0x1F20, 0x3B9]⟩, ⟨0x1F91, 0x1F91, 1, [0x1F21, 0x3B9]⟩,
    ⟨0x1F92, 0x1F92, 1, [0x1F22, 0x3B9]⟩, ⟨0x1F93, 0x1F93, 1, [0x1F23, 0x3B9]⟩,
    ⟨0x1F94, 0x1F94, 1, [0x1F24, 0x3B9]⟩, ⟨0x1F95, 0x1F95, 1, [0x1F25, 0x3B9]⟩,
    ⟨0x1F96, 0x1F96, 1, [0x1F26, 0x3B9]⟩, ⟨0x1F97, 0x1F97, 1, [0x1F27, 0x3B9]⟩,
    ⟨0x1F98, 0x1F98, 1, [0x1F20, 0x3B9]⟩, ⟨0x1F99, 0x1F99, 1, [0x1F21, 0x3B9]⟩,
    ⟨0x1F9A, 0x1F9A, 1, [0x1F22, 0x3B9]⟩, ⟨0x1F9B, 0x1F9B, 1, [0x1F23, 0x3B9]⟩,
    ⟨0x1F9C, 0x1F9C, 1, [0x1F24, 0x3B9]⟩, ⟨0x1F9D, 0x1F9D, 1, [0x1F25, 0x3B9]⟩,
    ⟨0x1F9E, 0x1F9E, 1, [0x1F26, 0x3B9]⟩, ⟨0x1F9F, 0x1F9F, 1, [0x1F27, 0x3B9]⟩,
    ⟨0x1FA0, 0x1FA0, 1, [0x1F60, 0x3B9]⟩, ⟨0x1FA1, 0x1FA1, 1, [0x1F61, 0x3B9]⟩,
    ⟨0x1FA2, 0x1FA2, 1, [0x1F62, 0x3B9]⟩, ⟨0x1FA3, 0x1FA3, 1, [0x1F63, 0x3B9]⟩,
    ⟨0x1FA4, 0x1FA4, 1, [0x1F64, 0x3B9]⟩, ⟨0x1FA5, 0x1FA5, 1, [0x1F65, 0x3B9]⟩,
    ⟨0x1FA6, 0x1FA6, 1, [0x1F66, 0x3B9]⟩, ⟨0x1FA7, 0x1FA7, 1, [0x1F67, 0x3B9]⟩,
    ⟨0x1FA8, 0x1FA8, 1, [0x1F60, 0x3B9]⟩, ⟨0x1FA9, 0x1FA9, 1, [0x1F61, 0x3B9]⟩,
    ⟨0x1FAA, 0x1FAA, 1, [0x1F62, 0x3B9]⟩, ⟨0x1FAB, 0x1FAB, 1, [0x1F63, 0x3B9]⟩,
    ⟨0x1FAC, 0x1FAC, 1, [0x1F64, 0x3B9]⟩, ⟨0x1FAD, 0x1FAD, 1, [0x1F65, 0x3B9]⟩,
    ⟨0x1FAE, 0x1FAE, 1, [0x1F66, 0x3B9]⟩, ⟨0x1FAF, 0x1FAF, 1, [0x1F67, 0x3B9]⟩,
    ⟨0x1FB2, 0x1FB2, 1, [0x1F70, 0x3B9]⟩, ⟨0x1FB3, 0x1FB3, 1, [0x3B1, 0x3B9]⟩,
    ⟨0x1FB4, 0x1FB4, 1, [0x3AC, 0x3B9]⟩, ⟨0x1FB7, 0x1FB7, 1, [0x1FB6, 0x3B9]⟩,
    ⟨0x1FB8, 0x1FB9, 1, [0x1FB0]⟩, ⟨0x1FBA, 0x1FBA, 1, [0x1F70]⟩, ⟨0x1FBB, 0x1FBB, 1, [0x3AC]⟩,
    ⟨0x1FBC, 0x1FBC, 1, [0x3B1, 0x3B9]⟩, ⟨0x1FBD, 0x1FBD, 1, [0x20, 0x313]⟩,
    ⟨0x1FBE, 0x1FBE, 1, [0x3B9]⟩, ⟨0x1FBF, 0x1FBF, 1, [0x20, 0x313]⟩,
    ⟨0x1FC0, 0x1FC0, 1, [0x20, 0x342]⟩, ⟨0x1FC1, 0x1FC1, 1, [0x20, 0x308, 0x342]⟩,
    ⟨0x1FC2, 0x1FC2, 1, [0x1F74, 0x3B9]⟩, ⟨0x1FC3, 0x1FC3, 1, [0x3B7, 0x3B9]⟩,
    ⟨0x1FC4, 0x1FC4, 1, [0x3AE, 0x3B9]⟩, ⟨0x1FC7, 0x1FC7, 1, [0x1FC6, 0x3B9]⟩,
    ⟨0x1FC8, 0x1FC8, 1, [0x1F72]⟩, ⟨0x1FC9, 0x1FC9, 1, [0x3AD]⟩, ⟨0x1FCA, 0x1FCA, 1, [0x1F74]⟩,
    ⟨0x1FCB, 0x1FCB, 1, [0x3AE]⟩, ⟨0x1FCC, 0x1FCC, 1, [0x3B7, 0x3B9]⟩,
    ⟨0x1FCD, 0x1FCD, 1, [0x20, 0x313, 0x300]⟩, ⟨0x1FCE, 0x1FCE, 1, [0x20, 0x313, 0x301]⟩,
    ⟨0x1FCF, 0x1FCF, 1, [0x20, 0x313, 0x342]⟩, ⟨0x1FD3, 0x1FD3, 1, [0x390]⟩,
    ⟨0x1FD8, 0x1FD9, 1, [0x1FD0]⟩, ⟨0x1FDA, 0x1FDA, 1, [0x1F76]⟩, ⟨0x1FDB, 0x1FDB, 1, [0x3AF]⟩,
    ⟨0x1FDD, 0x1FDD, 1, [0x20, 0x314, 0x300]⟩, ⟨0x1FDE, 0x1FDE, 1, [0x20, 0x314, 0x301]⟩,
    ⟨0x1FDF, 0x1FDF, 1, [0x20, 0x314, 0x342]⟩, ⟨0x1FE3, 0x1FE3, 1, [0x3B0]⟩,
    ⟨0x1FE8, 0x1FE9, 1, [0x1FE0]⟩, ⟨0x1FEA, 0x1FEA, 1, [0x1F7A]⟩, ⟨0x1FEB, 0x1FEB, 1, [0x3CD]⟩,
    ⟨0x1FEC, 0x1FEC, 1, [0x1FE5]⟩, ⟨0x1FED, 0x1FED, 1, [0x20, 0x308, 0x300]⟩,
    ⟨0x1FEE, 0x1FEE, 1, [0x20, 0x308, 0x301]⟩, ⟨0x1FEF, 0x1FEF, 1, [0x60]⟩,
    ⟨0x1FF2, 0x1FF2, 1, [0x1F7C, 0x3B9]⟩, ⟨0x1FF3, 0x1FF3, 1, [0x3C9, 0x3B9]⟩,
    ⟨0x1FF4, 0x1FF4, 1, [0x3CE, 0x3B9]⟩, ⟨0x1FF7, 0x1FF7, 1, [0x1FF6, 0x3B9]⟩,
    ⟨0x1FF8, 0x1FF8, 1, [0x1F78]⟩, ⟨0x1FF9, 0x1FF9, 1, [0x3CC]⟩, ⟨0x1FFA, 0x1FFA, 1, [0x1F7C]⟩,
    ⟨0x1FFB, 0x1FFB, 1, [0x3CE]⟩, ⟨0x1FFC, 0x1FFC, 1, [0x3C9, 0x3B9]⟩,
    ⟨0x1FFD, 0x1FFD, 1, [0x20, 0x301]⟩, ⟨0x1FFE, 0x1FFE, 1, [0x20, 0x314]⟩,
    ⟨0x2122, 0x2122, 1, [0x74, 0x6D]⟩, ⟨0x2126, 0x2126, 1, [0x3C9]⟩, ⟨0x212A, 0x212A, 1, [0x6B]⟩,
    ⟨0x212B, 0x212B, 1, [0xE5]⟩, ⟨0x2160, 0x2160, 1, [0x69]⟩, ⟨0x2161, 0x2161, 1, [0x69, 0x69]⟩,
    ⟨0x2162, 0x2162, 1, [0x69, 0x69, 0x69]⟩, ⟨0x2163, 0x2163, 1, [0x69, 0x76]⟩,
    ⟨0x2164, 0x2164, 1, [0x76]⟩, ⟨0x2165, 0x2165, 1, [0x76, 0x69]⟩,
    ⟨0x2166, 0x2166, 1, [0x76, 0x69, 0x69]⟩, ⟨0x2167, 0x2167, 1, [0x76, 0x69, 0x69, 0x69]⟩,
    ⟨0x2168, 0x2168, 1, [0x69, 0x78]⟩, ⟨0x2169, 0x2169, 1, [0x78]⟩,
    ⟨0x216A, 0x216A, 1, [0x78, 0x69]⟩, ⟨0x216B, 0x216B, 1, [0x78, 0x69, 0x69]⟩,
    ⟨0x216C, 0x216C, 1, [0x6C]⟩, ⟨0x216D, 0x216E, 1, [0x63]⟩, ⟨0x216F, 0x216F, 1, [0x6D]⟩,
    ⟨0x2170, 0x2170, 1, [0x69]⟩, ⟨0x2171, 0x2171, 1, [0x69, 0x69]⟩,
    ⟨0x2172, 0x2172, 1, [0x69, 0x69, 0x69]⟩, ⟨0x2173, 0x2173, 1, [0x69, 0x76]⟩,
    ⟨0x2174, 0x2174, 1, [0x76]⟩, ⟨0x2175, 0x2175, 1, [0x76, 0x69]⟩,
    ⟨0x2176, 0x2176, 1, [0x76, 0x69, 0x69]⟩, ⟨0x2177, 0x2177, 1, [0x76, 0x69, 0x69, 0x69]⟩,
    ⟨0x2178, 0x2178, 1, [0x69, 0x78]⟩, ⟨0x2179, 0x2179, 1, [0x78]⟩,
    ⟨0x217A, 0x217A, 1, [0x78, 0x69]⟩, ⟨0x217B, 0x217B, 1, [0x78, 0x69, 0x69]⟩,
    ⟨0x217C, 0x217C, 1, [0x6C]⟩, ⟨0x217D, 0x217E, 1, [0x63]⟩, ⟨0x217F, 0x217F, 1, [0x6D]⟩,
    ⟨0x2C00, 0x2C2F, 1, [0x2C30]⟩, ⟨0xFB00, 0xFB00, 1, [0x66, 0x66]⟩,
    ⟨0xFB01, 0xFB01, 1, [0x66, 0x69]⟩, ⟨0xFB02, 0xFB02, 1, [0x66, 0x6C]⟩,
    ⟨0xFB03, 0xFB03, 1, [0x66, 0x66, 0x69]⟩, ⟨0xFB04, 0xFB04, 1, [0x66, 0x66, 0x6C]⟩,
    ⟨0xFB05, 0xFB05, 1, [0x73, 0x74]⟩, ⟨0xFB06, 0xFB06, 1, [0x73, 0x74]⟩,
    ⟨0xFF01, 0xFF20, 1, [0x21]⟩, ⟨0xFF21, 0xFF3A, 1, [0x61]⟩, ⟨0xFF3B, 0xFF5E, 1, [0x5B]⟩]

/-- The characters that a name drops, as ranges. -/
def ignored : List (Nat × Nat) :=
  [(0xAD, 0xAD), (0x34F, 0x34F), (0x180B, 0x180F), (0x200B, 0x200B), (0x2060, 0x2060),
    (0x2064, 0x2064), (0xFE00, 0xFE0F), (0xFEFF, 0xFEFF), (0xE0100, 0xE01EF)]

/-- Composed characters and their two parts. -/
def compositions : List (Nat × Nat × Nat) :=
  [(0xE0, 0x61, 0x300), (0xE1, 0x61, 0x301), (0xE2, 0x61, 0x302), (0xE3, 0x61, 0x303),
    (0xE4, 0x61, 0x308), (0xE5, 0x61, 0x30A), (0xE7, 0x63, 0x327), (0xE8, 0x65, 0x300),
    (0xE9, 0x65, 0x301), (0xEA, 0x65, 0x302), (0xEB, 0x65, 0x308), (0xEC, 0x69, 0x300),
    (0xED, 0x69, 0x301), (0xEE, 0x69, 0x302), (0xEF, 0x69, 0x308), (0xF1, 0x6E, 0x303),
    (0xF2, 0x6F, 0x300), (0xF3, 0x6F, 0x301), (0xF4, 0x6F, 0x302), (0xF5, 0x6F, 0x303),
    (0xF6, 0x6F, 0x308), (0xF9, 0x75, 0x300), (0xFA, 0x75, 0x301), (0xFB, 0x75, 0x302),
    (0xFC, 0x75, 0x308), (0xFD, 0x79, 0x301), (0xFF, 0x79, 0x308), (0x101, 0x61, 0x304),
    (0x103, 0x61, 0x306), (0x105, 0x61, 0x328), (0x107, 0x63, 0x301), (0x109, 0x63, 0x302),
    (0x10B, 0x63, 0x307), (0x10D, 0x63, 0x30C), (0x10F, 0x64, 0x30C), (0x113, 0x65, 0x304),
    (0x115, 0x65, 0x306), (0x117, 0x65, 0x307), (0x119, 0x65, 0x328), (0x11B, 0x65, 0x30C),
    (0x11D, 0x67, 0x302), (0x11F, 0x67, 0x306), (0x121, 0x67, 0x307), (0x123, 0x67, 0x327),
    (0x125, 0x68, 0x302), (0x129, 0x69, 0x303), (0x12B, 0x69, 0x304), (0x12D, 0x69, 0x306),
    (0x12F, 0x69, 0x328), (0x135, 0x6A, 0x302), (0x137, 0x6B, 0x327), (0x13A, 0x6C, 0x301),
    (0x13C, 0x6C, 0x327), (0x13E, 0x6C, 0x30C), (0x144, 0x6E, 0x301), (0x146, 0x6E, 0x327),
    (0x148, 0x6E, 0x30C), (0x14D, 0x6F, 0x304), (0x14F, 0x6F, 0x306), (0x151, 0x6F, 0x30B),
    (0x155, 0x72, 0x301), (0x157, 0x72, 0x327), (0x159, 0x72, 0x30C), (0x15B, 0x73, 0x301),
    (0x15D, 0x73, 0x302), (0x15F, 0x73, 0x327), (0x161, 0x73, 0x30C), (0x163, 0x74, 0x327),
    (0x165, 0x74, 0x30C), (0x169, 0x75, 0x303), (0x16B, 0x75, 0x304), (0x16D, 0x75, 0x306),
    (0x16F, 0x75, 0x30A), (0x171, 0x75, 0x30B), (0x173, 0x75, 0x328), (0x175, 0x77, 0x302),
    (0x177, 0x79, 0x302), (0x17A, 0x7A, 0x301), (0x17C, 0x7A, 0x307), (0x17E, 0x7A, 0x30C),
    (0x1A1, 0x6F, 0x31B), (0x1B0, 0x75, 0x31B), (0x1CE, 0x61, 0x30C), (0x1D0, 0x69, 0x30C),
    (0x1D2, 0x6F, 0x30C), (0x1D4, 0x75, 0x30C), (0x1D6, 0xFC, 0x304), (0x1D8, 0xFC, 0x301),
    (0x1DA, 0xFC, 0x30C), (0x1DC, 0xFC, 0x300), (0x1DF, 0xE4, 0x304), (0x1E1, 0x227, 0x304),
    (0x1E3, 0xE6, 0x304), (0x1E7, 0x67, 0x30C), (0x1E9, 0x6B, 0x30C), (0x1EB, 0x6F, 0x328),
    (0x1ED, 0x1EB, 0x304), (0x1EF, 0x292, 0x30C), (0x1F0, 0x6A, 0x30C), (0x1F5, 0x67, 0x301),
    (0x1F9, 0x6E, 0x300), (0x1FB, 0xE5, 0x301), (0x1FD, 0xE6, 0x301), (0x1FF, 0xF8, 0x301),
    (0x201, 0x61, 0x30F), (0x203, 0x61, 0x311), (0x205, 0x65, 0x30F), (0x207, 0x65, 0x311),
    (0x209, 0x69, 0x30F), (0x20B, 0x69, 0x311), (0x20D, 0x6F, 0x30F), (0x20F, 0x6F, 0x311),
    (0x211, 0x72, 0x30F), (0x213, 0x72, 0x311), (0x215, 0x75, 0x30F), (0x217, 0x75, 0x311),
    (0x219, 0x73, 0x326), (0x21B, 0x74, 0x326), (0x21F, 0x68, 0x30C), (0x227, 0x61, 0x307),
    (0x229, 0x65, 0x327), (0x22B, 0xF6, 0x304), (0x22D, 0xF5, 0x304), (0x22F, 0x6F, 0x307),
    (0x231, 0x22F, 0x304), (0x233, 0x79, 0x304), (0x390, 0x3CA, 0x301), (0x3AC, 0x3B1, 0x301),
    (0x3AD, 0x3B5, 0x301), (0x3AE, 0x3B7, 0x301), (0x3AF, 0x3B9, 0x301), (0x3B0, 0x3CB, 0x301),
    (0x3CA, 0x3B9, 0x308), (0x3CB, 0x3C5, 0x308), (0x3CC, 0x3BF, 0x301), (0x3CD, 0x3C5, 0x301),
    (0x3CE, 0x3C9, 0x301), (0x439, 0x438, 0x306), (0x450, 0x435, 0x300), (0x451, 0x435, 0x308),
    (0x453, 0x433, 0x301), (0x457, 0x456, 0x308), (0x45C, 0x43A, 0x301), (0x45D, 0x438, 0x300),
    (0x45E, 0x443, 0x306), (0x477, 0x475, 0x30F), (0x4C2, 0x436, 0x306), (0x4D1, 0x430, 0x306),
    (0x4D3, 0x430, 0x308), (0x4D7, 0x435, 0x306), (0x4DB, 0x4D9, 0x308), (0x4DD, 0x436, 0x308),
    (0x4DF, 0x437, 0x308), (0x4E3, 0x438, 0x304), (0x4E5, 0x438, 0x308), (0x4E7, 0x43E, 0x308),
    (0x4EB, 0x4E9, 0x308), (0x4ED, 0x44D, 0x308), (0x4EF, 0x443, 0x304), (0x4F1, 0x443, 0x308),
    (0x4F3, 0x443, 0x30B), (0x4F5, 0x447, 0x308), (0x4F9, 0x44B, 0x308), (0x622, 0x627, 0x653),
    (0x623, 0x627, 0x654), (0x624, 0x648, 0x654), (0x625, 0x627, 0x655), (0x626, 0x64A, 0x654),
    (0x6C0, 0x6D5, 0x654), (0x6C2, 0x6C1, 0x654), (0x6D3, 0x6D2, 0x654), (0x929, 0x928, 0x93C),
    (0x931, 0x930, 0x93C), (0x934, 0x933, 0x93C), (0x9CB, 0x9C7, 0x9BE), (0x9CC, 0x9C7, 0x9D7),
    (0xB48, 0xB47, 0xB56), (0xB4B, 0xB47, 0xB3E), (0xB4C, 0xB47, 0xB57), (0xB94, 0xB92, 0xBD7),
    (0xBCA, 0xBC6, 0xBBE), (0xBCB, 0xBC7, 0xBBE), (0xBCC, 0xBC6, 0xBD7), (0xC48, 0xC46, 0xC56),
    (0xCC0, 0xCBF, 0xCD5), (0xCC7, 0xCC6, 0xCD5), (0xCC8, 0xCC6, 0xCD6), (0xCCA, 0xCC6, 0xCC2),
    (0xCCB, 0xCCA, 0xCD5), (0xD4A, 0xD46, 0xD3E), (0xD4B, 0xD47, 0xD3E), (0xD4C, 0xD46, 0xD57),
    (0xDDA, 0xDD9, 0xDCA), (0xDDC, 0xDD9, 0xDCF), (0xDDD, 0xDDC, 0xDCA), (0xDDE, 0xDD9, 0xDDF),
    (0x1026, 0x1025, 0x102E), (0x1B06, 0x1B05, 0x1B35), (0x1B08, 0x1B07, 0x1B35),
    (0x1B0A, 0x1B09, 0x1B35), (0x1B0C, 0x1B0B, 0x1B35), (0x1B0E, 0x1B0D, 0x1B35),
    (0x1B12, 0x1B11, 0x1B35), (0x1B3B, 0x1B3A, 0x1B35), (0x1B3D, 0x1B3C, 0x1B35),
    (0x1B40, 0x1B3E, 0x1B35), (0x1B41, 0x1B3F, 0x1B35), (0x1B43, 0x1B42, 0x1B35),
    (0x1E01, 0x61, 0x325), (0x1E03, 0x62, 0x307), (0x1E05, 0x62, 0x323), (0x1E07, 0x62, 0x331),
    (0x1E09, 0xE7, 0x301), (0x1E0B, 0x64, 0x307), (0x1E0D, 0x64, 0x323), (0x1E0F, 0x64, 0x331),
    (0x1E11, 0x64, 0x327), (0x1E13, 0x64, 0x32D), (0x1E15, 0x113, 0x300), (0x1E17, 0x113, 0x301),
    (0x1E19, 0x65, 0x32D), (0x1E1B, 0x65, 0x330), (0x1E1D, 0x229, 0x306), (0x1E1F, 0x66, 0x307),
    (0x1E21, 0x67, 0x304), (0x1E23, 0x68, 0x307), (0x1E25, 0x68, 0x323), (0x1E27, 0x68, 0x308),
    (0x1E29, 0x68, 0x327), (0x1E2B, 0x68, 0x32E), (0x1E2D, 0x69, 0x330), (0x1E2F, 0xEF, 0x301),
    (0x1E31, 0x6B, 0x301), (0x1E33, 0x6B, 0x323), (0x1E35, 0x6B, 0x331), (0x1E37, 0x6C, 0x323),
    (0x1E39, 0x1E37, 0x304), (0x1E3B, 0x6C, 0x331), (0x1E3D, 0x6C, 0x32D), (0x1E3F, 0x6D, 0x301),
    (0x1E41, 0x6D, 0x307), (0x1E43, 0x6D, 0x323), (0x1E45, 0x6E, 0x307), (0x1E47, 0x6E, 0x323),
    (0x1E49, 0x6E, 0x331), (0x1E4B, 0x6E, 0x32D), (0x1E4D, 0xF5, 0x301), (0x1E4F, 0xF5, 0x308),
    (0x1E51, 0x14D, 0x300), (0x1E53, 0x14D, 0x301), (0x1E55, 0x70, 0x301), (0x1E57, 0x70, 0x307),
    (0x1E59, 0x72, 0x307), (0x1E5B, 0x72, 0x323), (0x1E5D, 0x1E5B, 0x304), (0x1E5F, 0x72, 0x331),
    (0x1E61, 0x73, 0x307), (0x1E63, 0x73, 0x323), (0x1E65, 0x15B, 0x307), (0x1E67, 0x161, 0x307),
    (0x1E69, 0x1E63, 0x307), (0x1E6B, 0x74, 0x307), (0x1E6D, 0x74, 0x323), (0x1E6F, 0x74, 0x331),
    (0x1E71, 0x74, 0x32D), (0x1E73, 0x75, 0x324), (0x1E75, 0x75, 0x330), (0x1E77, 0x75, 0x32D),
    (0x1E79, 0x169, 0x301), (0x1E7B, 0x16B, 0x308), (0x1E7D, 0x76, 0x303), (0x1E7F, 0x76, 0x323),
    (0x1E81, 0x77, 0x300), (0x1E83, 0x77, 0x301), (0x1E85, 0x77, 0x308), (0x1E87, 0x77, 0x307),
    (0x1E89, 0x77, 0x323), (0x1E8B, 0x78, 0x307), (0x1E8D, 0x78, 0x308), (0x1E8F, 0x79, 0x307),
    (0x1E91, 0x7A, 0x302), (0x1E93, 0x7A, 0x323), (0x1E95, 0x7A, 0x331), (0x1E96, 0x68, 0x331),
    (0x1E97, 0x74, 0x308), (0x1E98, 0x77, 0x30A), (0x1E99, 0x79, 0x30A), (0x1EA1, 0x61, 0x323),
    (0x1EA3, 0x61, 0x309), (0x1EA5, 0xE2, 0x301), (0x1EA7, 0xE2, 0x300), (0x1EA9, 0xE2, 0x309),
    (0x1EAB, 0xE2, 0x303), (0x1EAD, 0x1EA1, 0x302), (0x1EAF, 0x103, 0x301),
    (0x1EB1, 0x103, 0x300), (0x1EB3, 0x103, 0x309), (0x1EB5, 0x103, 0x303),
    (0x1EB7, 0x1EA1, 0x306), (0x1EB9, 0x65, 0x323), (0x1EBB, 0x65, 0x309), (0x1EBD, 0x65, 0x303),
    (0x1EBF, 0xEA, 0x301), (0x1EC1, 0xEA, 0x300), (0x1EC3, 0xEA, 0x309), (0x1EC5, 0xEA, 0x303),
    (0x1EC7, 0x1EB9, 0x302), (0x1EC9, 0x69, 0x309), (0x1ECB, 0x69, 0x323), (0x1ECD, 0x6F, 0x323),
    (0x1ECF, 0x6F, 0x309), (0x1ED1, 0xF4, 0x301), (0x1ED3, 0xF4, 0x300), (0x1ED5, 0xF4, 0x309),
    (0x1ED7, 0xF4, 0x303), (0x1ED9, 0x1ECD, 0x302), (0x1EDB, 0x1A1, 0x301),
    (0x1EDD, 0x1A1, 0x300), (0x1EDF, 0x1A1, 0x309), (0x1EE1, 0x1A1, 0x303),
    (0x1EE3, 0x1A1, 0x323), (0x1EE5, 0x75, 0x323), (0x1EE7, 0x75, 0x309), (0x1EE9, 0x1B0, 0x301),
    (0x1EEB, 0x1B0, 0x300), (0x1EED, 0x1B0, 0x309), (0x1EEF, 0x1B0, 0x303),
    (0x1EF1, 0x1B0, 0x323), (0x1EF3, 0x79, 0x300), (0x1EF5, 0x79, 0x323), (0x1EF7, 0x79, 0x309),
    (0x1EF9, 0x79, 0x303), (0x1F00, 0x3B1, 0x313), (0x1F01, 0x3B1, 0x314),
    (0x1F02, 0x1F00, 0x300), (0x1F03, 0x1F01, 0x300), (0x1F04, 0x1F00, 0x301),
    (0x1F05, 0x1F01, 0x301), (0x1F06, 0x1F00, 0x342), (0x1F07, 0x1F01, 0x342),
    (0x1F10, 0x3B5, 0x313), (0x1F11, 0x3B5, 0x314), (0x1F12, 0x1F10, 0x300),
    (0x1F13, 0x1F11, 0x300), (0x1F14, 0x1F10, 0x301), (0x1F15, 0x1F11, 0x301),
    (0x1F20, 0x3B7, 0x313), (0x1F21, 0x3B7, 0x314), (0x1F22, 0x1F20, 0x300),
    (0x1F23, 0x1F21, 0x300), (0x1F24, 0x1F20, 0x301), (0x1F25, 0x1F21, 0x301),
    (0x1F26, 0x1F20, 0x342), (0x1F27, 0x1F21, 0x342), (0x1F30, 0x3B9, 0x313),
    (0x1F31, 0x3B9, 0x314), (0x1F32, 0x1F30, 0x300), (0x1F33, 0x1F31, 0x300),
    (0x1F34, 0x1F30, 0x301), (0x1F35, 0x1F31, 0x301), (0x1F36, 0x1F30, 0x342),
    (0x1F37, 0x1F31, 0x342), (0x1F40, 0x3BF, 0x313), (0x1F41, 0x3BF, 0x314),
    (0x1F42, 0x1F40, 0x300), (0x1F43, 0x1F41, 0x300), (0x1F44, 0x1F40, 0x301),
    (0x1F45, 0x1F41, 0x301), (0x1F50, 0x3C5, 0x313), (0x1F51, 0x3C5, 0x314),
    (0x1F52, 0x1F50, 0x300), (0x1F53, 0x1F51, 0x300), (0x1F54, 0x1F50, 0x301),
    (0x1F55, 0x1F51, 0x301), (0x1F56, 0x1F50, 0x342), (0x1F57, 0x1F51, 0x342),
    (0x1F60, 0x3C9, 0x313), (0x1F61, 0x3C9, 0x314), (0x1F62, 0x1F60, 0x300),
    (0x1F63, 0x1F61, 0x300), (0x1F64, 0x1F60, 0x301), (0x1F65, 0x1F61, 0x301),
    (0x1F66, 0x1F60, 0x342), (0x1F67, 0x1F61, 0x342), (0x1F70, 0x3B1, 0x300),
    (0x1F72, 0x3B5, 0x300), (0x1F74, 0x3B7, 0x300), (0x1F76, 0x3B9, 0x300),
    (0x1F78, 0x3BF, 0x300), (0x1F7A, 0x3C5, 0x300), (0x1F7C, 0x3C9, 0x300),
    (0x1FB0, 0x3B1, 0x306), (0x1FB1, 0x3B1, 0x304), (0x1FB6, 0x3B1, 0x342),
    (0x1FC6, 0x3B7, 0x342), (0x1FD0, 0x3B9, 0x306), (0x1FD1, 0x3B9, 0x304),
    (0x1FD2, 0x3CA, 0x300), (0x1FD6, 0x3B9, 0x342), (0x1FD7, 0x3CA, 0x342),
    (0x1FE0, 0x3C5, 0x306), (0x1FE1, 0x3C5, 0x304), (0x1FE2, 0x3CB, 0x300),
    (0x1FE4, 0x3C1, 0x313), (0x1FE5, 0x3C1, 0x314), (0x1FE6, 0x3C5, 0x342),
    (0x1FE7, 0x3CB, 0x342), (0x1FF6, 0x3C9, 0x342)]

/-- Characters outside of ASCII that no name holds, as ranges: controls, spaces, and private
ones. -/
def refused : List (Nat × Nat) :=
  [(0x80, 0x9F), (0x61C, 0x61C), (0x6DD, 0x6DD), (0x70F, 0x70F), (0x1680, 0x1680),
    (0x180E, 0x180E), (0x2000, 0x200A), (0x200C, 0x200F), (0x2028, 0x202F), (0x205F, 0x205F),
    (0x2061, 0x2063), (0x2065, 0x206F), (0x3000, 0x3000), (0xE000, 0xF8FF), (0xFFF0, 0xFFFF),
    (0xE0000, 0xE00FF), (0xE01F0, 0x10FFFF)]

end SignOn.DomainName
