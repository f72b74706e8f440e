import DiagramDesk.Text.Hexadecimal

/-! The chances that a reader starts from, and the scales that a picture chooses among. Chances are
written as two hexadecimal digits each, and those that belong together stand in one word. -/
namespace DiagramDesk.Webp

def numbers : List Char → List Nat
  | a :: b :: rest =>
    if a.isWhitespace then numbers (b :: rest) else Text.hexNumber [a, b] :: numbers rest
  | _ => []

/-- Chances of amounts, eleven for each kind of block, band of places and situation. -/
def amountTable : String :=
  "8080808080808080808080 8080808080808080808080 8080808080808080808080 fd88feffe4db8080808080
    bd81f2ffe3d5ffdb808080 6a7ee3fcd6d1ffff808080 0162f8ffece2ffff808080 b585eefeddeaff9a808080
    4e86caf7c6b4ffdb808080 01b9f9fff3ff8080808080 b896f7ffece08080808080 4d6ed8ffece68080808080
    0165fbfff1ff8080808080 aa8bf1fcecd1ffff808080 2574c4f3e4ffffff808080 01ccfefff5ff8080808080
    cfa0faffee808080808080 6667e7ffd3ab8080808080 0198fcfff0ff8080808080 b187f3ffeae18080808080
    5081d3ffc2e08080808080 0101ff8080808080808080 f601ff8080808080808080 ff80808080808080808080
    c623eddfc1bba2a0919b3e 832dc6ddacb0dc9dfcdd01 442f92d095a7dda2ffdf80 0195f1ffdde0ffff808080
    b88deafddedcffc7808080 5163b5f2b0bef9caffff80 0181e8fdd6c5f2c4ffff80 6379d2fac9c6ffca808080
    175ba3f2aabbf7d2ffff80 01c8f6ffeaff8080808080 6db2f1ffe7f5ffff808080 2c82c9fdcdc0ffff808080
    0184effbdbd1ffa5808080 5e88e1fbdabeffff808080 1664aef5baa1ffc7808080 01b6f9ffe8eb8080808080
    7c8ff1ffe3ea8080808080 234db5fbc1d3ffcd808080 019df7ffece7ffff808080 798debffe1e3ffff808080
    2d63bcfbc3d9ffe0808080 0101fbffd5ff8080808080 cb01f8ffff808080808080 8901b1ffe0ff8080808080
    fd09f8fbcfd0ffc0808080 af0de0f3c1b9f9c6ffff80 4911abdda1b3eca7ffea80 015ff7fdd4b7ffff808080
    ef5af4fad3d1ffff808080 9b4dc3f8bcc3ffff808080 0118effbdadbffcd808080 c933dbffc4ba8080808080
    452ebeefc9daffe4808080 01bffbffff808080808080 dfa5f9ffd5ff8080808080 8d7cf8ffff808080808080
    0110f8ffff808080808080 be24e6ffecff8080808080 9501ff8080808080808080 01e2ff8080808080808080
    f7c0ff8080808080808080 f080ff8080808080808080 0186fcffff808080808080 d53efaffff808080808080
    375dff8080808080808080 8080808080808080808080 8080808080808080808080 8080808080808080808080
    ca18d5ebbabfdca0f0afff 7e26b6e8a9b8e4aeffbb80 3d2e8adb97b2f0aaffd880 0170e6fac7bff79fffff80
    a66de4fcd3d7ffae808080 274da2e8acb4f5b2ffff80 0134dcf6c6c7f9dcffff80 7c4abff3b7c1faddffff80
    184782db9aaaf3b6ffff80 01b6e1f9dbf0ffe0808080 9596e2fcd8cdffab808080 1c6caaf2b7c2fedfffff80
    0151e6fccccbffc0808080 7b66d1f7bcc4ffe9808080 145f99f3a4adffcb808080 01def8ffd8d58080808080
    a8aff6fcebcdffff808080 2f74d7ffd3d4ffff808080 0179ecfdd4d6ffff808080 8d54d5fcc9caffdb808080
    2a50a0f0a2b9ffcd808080 0101ff8080808080808080 f401ff8080808080808080 ee01ff8080808080808080"

def renewalTable : String :=
  "ffffffffffffffffffffff ffffffffffffffffffffff ffffffffffffffffffffff b0f6ffffffffffffffffff
    dff1fcffffffffffffffff f9fdfdffffffffffffffff fff4fcffffffffffffffff eafefeffffffffffffffff
    fdffffffffffffffffffff fff6feffffffffffffffff effdfeffffffffffffffff fefffeffffffffffffffff
    fff8feffffffffffffffff fbfffeffffffffffffffff ffffffffffffffffffffff fffdfeffffffffffffffff
    fbfefeffffffffffffffff fefffeffffffffffffffff fffefdfffeffffffffffff fafffefffeffffffffffff
    feffffffffffffffffffff ffffffffffffffffffffff ffffffffffffffffffffff ffffffffffffffffffffff
    d9ffffffffffffffffffff e1fcf1fdfffffeffffffff eafaf1fafdfffdfeffffff fffeffffffffffffffffff
    dffefeffffffffffffffff eefdfefeffffffffffffff fff8feffffffffffffffff f9feffffffffffffffffff
    ffffffffffffffffffffff fffdffffffffffffffffff f7feffffffffffffffffff ffffffffffffffffffffff
    fffdfeffffffffffffffff fcffffffffffffffffffff ffffffffffffffffffffff fffefeffffffffffffffff
    fdffffffffffffffffffff ffffffffffffffffffffff fffefdffffffffffffffff faffffffffffffffffffff
    feffffffffffffffffffff ffffffffffffffffffffff ffffffffffffffffffffff ffffffffffffffffffffff
    bafbfaffffffffffffffff eafbf4feffffffffffffff fbfbf3fdfefffeffffffff fffdfeffffffffffffffff
    ecfdfeffffffffffffffff fbfdfdfefeffffffffffff fffefeffffffffffffffff fefefeffffffffffffffff
    ffffffffffffffffffffff fffeffffffffffffffffff fefeffffffffffffffffff feffffffffffffffffffff
    ffffffffffffffffffffff feffffffffffffffffffff ffffffffffffffffffffff ffffffffffffffffffffff
    ffffffffffffffffffffff ffffffffffffffffffffff ffffffffffffffffffffff ffffffffffffffffffffff
    ffffffffffffffffffffff ffffffffffffffffffffff ffffffffffffffffffffff ffffffffffffffffffffff
    f8ffffffffffffffffffff fafefcfeffffffffffffff f8fef9fdffffffffffffff fffdfdffffffffffffffff
    f6fdfdffffffffffffffff fcfefbfefeffffffffffff fffefcffffffffffffffff f8fefdffffffffffffffff
    fdfffefeffffffffffffff fffbfeffffffffffffffff f5fbfeffffffffffffffff fdfdfeffffffffffffffff
    fffbfdffffffffffffffff fcfdfeffffffffffffffff fffeffffffffffffffffff fffcffffffffffffffffff
    f9fffeffffffffffffffff fffffeffffffffffffffff fffffdffffffffffffffff faffffffffffffffffffff
    ffffffffffffffffffffff ffffffffffffffffffffff feffffffffffffffffffff ffffffffffffffffffffff"

/-- Chances of the guess at a block, nine for each guess above it and each on its left. -/
def blockGuessTable : String :=
  "e77830597371789870 98b3407eaa762e465f af458f505552489b67 383a0aabdabd110d98
    721a11a32cc3150aad 791850c31a3e2c4055 90470a26abd590221a aa2e371388a021ce47
    3f14087272d00c09e2 51280b60b6541d1024 86b7598962656aa594 48bb64829d6f204b50
    4266a7634a3e28ea80 293509b2f18d1a086b 4a2b1a9249a631179d 412669a033341f7380
    684f0c1bd9ff571107 5744472c72330fba17 2f290e6eb6b71511c2 422d1966c5bd171216
    585893962a2e2dc4cd 2b61b775552623b33d 2735c8571a152be8ab 3822336872661d5d4d
    271c55ab3aa55a6240 221674ce17222ba649 6b36201a3301512b1f 44196a1640ab24e172
    2213156684bc104c7c 3e124e5f5539323033 c165239fd76f592e6f 3c941facdbe415126f
    70714d55b3ff267872 282a01c4f5d10a196d 582b1d8ca6d5252b9a 3d3f1e9b432d4401d1
    6450082b9a01331a47 8e4e4e10ff8022c5ab 29280566d3b70401dd 333211a8d1c0171952
    8a1f24ab1ba6262ce5 43573aa952731a3bb3 3f3b5ab43ba65d499a 282815748fd12227af
    2f0f10b722df312db7 2e1121b706620f20b7 392e16188001361125 412049731c801780cd
    2803097333c01206df 572509733b4d40152f 68372cda09363582e2 405a46cd2829171a39
    363970b8052926a6d5 1e221a8598740a2086 271335dd1a722049ff 1f0941ea020f017649
    4b200c33c0ffa02b33 581f2343665537ba55 3815176f3bcd2d25c0 3726467c4966012262
    7d622a58685575af52 5f543559806471652d 4b4f7b2f338051ab01 391105476639352931
    26210d7939491a0155 290a438a4d6e5a2f72 7315020a66ffa61706 651d100a558065c41a
    39120a6666d522142b 75140f24a38044011a 663d472522351ff3c0 453c472649771cde25
    442d8022012f0bf5ab 3e1113469255373e46 252b259a64a355a001 3f095c881c4020c955
    4b0f090940ffb87710 56061c0540ff19f801 3808118489ff377480 3a0f145287391a7928
    a4321f899a851923da 33672c83837b1f069e 5628408794e02db780 161a1183f09a0e01d1
    2d10155b40de0701c5 3815279b3c8a1766d5 530c0d36c0ff442f1c 551a555580802092ab
    120b073f90ab0404f6 231b0a92aeab0c1a80 be502363b4507e362d 557e2f57b033291420
    654b808b7692748055 38290fb0ec5525093e 471e117776ff11128a 65263c8a37462b1a8e
    9224131eabff611b14 8a2d3d3edb0151bc40 20291475978e1415a3 70130c3dc380300418"

def stillScales : Array Nat := #[
  4, 5, 6, 7, 8, 9, 10, 10, 11, 12, 13, 14, 15, 16, 17, 17, 18, 19, 20, 20, 21, 21, 22, 22, 23,
  23, 24, 25, 25, 26, 27, 28, 29, 30, 31, 32, 33, 34, 35, 36, 37, 37, 38, 39, 40, 41, 42, 43, 44,
  45, 46, 46, 47, 48, 49, 50, 51, 52, 53, 54, 55, 56, 57, 58, 59, 60, 61, 62, 63, 64, 65, 66, 67,
  68, 69, 70, 71, 72, 73, 74, 75, 76, 76, 77, 78, 79, 80, 81, 82, 83, 84, 85, 86, 87, 88, 89, 91,
  93, 95, 96, 98, 100, 101, 102, 104, 106, 108, 110, 112, 114, 116, 118, 122, 124, 126, 128, 130,
  132, 134, 136, 138, 140, 143, 145, 148, 151, 154, 157]

def movingScales : Array Nat := #[
  4, 5, 6, 7, 8, 9, 10, 11, 12, 13, 14, 15, 16, 17, 18, 19, 20, 21, 22, 23, 24, 25, 26, 27, 28,
  29, 30, 31, 32, 33, 34, 35, 36, 37, 38, 39, 40, 41, 42, 43, 44, 45, 46, 47, 48, 49, 50, 51, 52,
  53, 54, 55, 56, 57, 58, 60, 62, 64, 66, 68, 70, 72, 74, 76, 78, 80, 82, 84, 86, 88, 90, 92, 94,
  96, 98, 100, 102, 104, 106, 108, 110, 112, 114, 116, 119, 122, 125, 128, 131, 134, 137, 140,
  143, 146, 149, 152, 155, 158, 161, 164, 167, 170, 173, 177, 181, 185, 189, 193, 197, 201, 205,
  209, 213, 217, 221, 225, 229, 234, 239, 245, 249, 254, 259, 264, 269, 274, 279, 284]

def amountChances : Array Nat := (numbers amountTable.toList).toArray
def renewalChances : Array Nat := (numbers renewalTable.toList).toArray
def blockGuessChances : Array Nat := (numbers blockGuessTable.toList).toArray

end DiagramDesk.Webp
