import ClaExemption.Unicode.Derived

/-!
# Letter case

Two maps of single characters: `foldOrbit`, the characters that simple case
folding identifies with a character, and `lowerOf`, the lower case of a
character.
-/

namespace ClaExemption.Unicode

/-- The sets of characters that simple case folding identifies, each ended by a zero. -/
def foldOrbits : List (List Nat) :=
  ((words
  "41 61 0 42 62 0 43 63 0 44 64 0 45 65 0 46 66 0 47 67 0 48 68 0 49 69 0 4a 6a 0 4b 6b 212a 0
  4c 6c 0 4d 6d 0 4e 6e 0 4f 6f 0 50 70 0 51 71 0 52 72 0 53 73 17f 0 54 74 0 55 75 0 56 76 0
  57 77 0 58 78 0 59 79 0 5a 7a 0 b5 39c 3bc 0 c0 e0 0 c1 e1 0 c2 e2 0 c3 e3 0 c4 e4 0 c5 e5
  212b 0 c6 e6 0 c7 e7 0 c8 e8 0 c9 e9 0 ca ea 0 cb eb 0 cc ec 0 cd ed 0 ce ee 0 cf ef 0 d0 f0
  0 d1 f1 0 d2 f2 0 d3 f3 0 d4 f4 0 d5 f5 0 d6 f6 0 d8 f8 0 d9 f9 0 da fa 0 db fb 0 dc fc 0 dd
  fd 0 de fe 0 df 1e9e 0 ff 178 0 100 101 0 102 103 0 104 105 0 106 107 0 108 109 0 10a 10b 0
  10c 10d 0 10e 10f 0 110 111 0 112 113 0 114 115 0 116 117 0 118 119 0 11a 11b 0 11c 11d 0
  11e 11f 0 120 121 0 122 123 0 124 125 0 126 127 0 128 129 0 12a 12b 0 12c 12d 0 12e 12f 0
  132 133 0 134 135 0 136 137 0 139 13a 0 13b 13c 0 13d 13e 0 13f 140 0 141 142 0 143 144 0
  145 146 0 147 148 0 14a 14b 0 14c 14d 0 14e 14f 0 150 151 0 152 153 0 154 155 0 156 157 0
  158 159 0 15a 15b 0 15c 15d 0 15e 15f 0 160 161 0 162 163 0 164 165 0 166 167 0 168 169 0
  16a 16b 0 16c 16d 0 16e 16f 0 170 171 0 172 173 0 174 175 0 176 177 0 179 17a 0 17b 17c 0
  17d 17e 0 180 243 0 181 253 0 182 183 0 184 185 0 186 254 0 187 188 0 189 256 0 18a 257 0
  18b 18c 0 18e 1dd 0 18f 259 0 190 25b 0 191 192 0 193 260 0 194 263 0 195 1f6 0 196 269 0
  197 268 0 198 199 0 19a 23d 0 19b a7dc 0 19c 26f 0 19d 272 0 19e 220 0 19f 275 0 1a0 1a1 0
  1a2 1a3 0 1a4 1a5 0 1a6 280 0 1a7 1a8 0 1a9 283 0 1ac 1ad 0 1ae 288 0 1af 1b0 0 1b1 28a 0
  1b2 28b 0 1b3 1b4 0 1b5 1b6 0 1b7 292 0 1b8 1b9 0 1bc 1bd 0 1bf 1f7 0 1c4 1c5 1c6 0 1c7 1c8
  1c9 0 1ca 1cb 1cc 0 1cd 1ce 0 1cf 1d0 0 1d1 1d2 0 1d3 1d4 0 1d5 1d6 0 1d7 1d8 0 1d9 1da 0
  1db 1dc 0 1de 1df 0 1e0 1e1 0 1e2 1e3 0 1e4 1e5 0 1e6 1e7 0 1e8 1e9 0 1ea 1eb 0 1ec 1ed 0
  1ee 1ef 0 1f1 1f2 1f3 0 1f4 1f5 0 1f8 1f9 0 1fa 1fb 0 1fc 1fd 0 1fe 1ff 0 200 201 0 202 203
  0 204 205 0 206 207 0 208 209 0 20a 20b 0 20c 20d 0 20e 20f 0 210 211 0 212 213 0 214 215 0
  216 217 0 218 219 0 21a 21b 0 21c 21d 0 21e 21f 0 222 223 0 224 225 0 226 227 0 228 229 0
  22a 22b 0 22c 22d 0 22e 22f 0 230 231 0 232 233 0 23a 2c65 0 23b 23c 0 23e 2c66 0 23f 2c7e 0
  240 2c7f 0 241 242 0 244 289 0 245 28c 0 246 247 0 248 249 0 24a 24b 0 24c 24d 0 24e 24f 0
  250 2c6f 0 251 2c6d 0 252 2c70 0 25c a7ab 0 261 a7ac 0 264 a7cb 0 265 a78d 0 266 a7aa 0 26a
  a7ae 0 26b 2c62 0 26c a7ad 0 271 2c6e 0 27d 2c64 0 282 a7c5 0 287 a7b1 0 29d a7b2 0 29e a7b0
  0 345 399 3b9 1fbe 0 370 371 0 372 373 0 376 377 0 37b 3fd 0 37c 3fe 0 37d 3ff 0 37f 3f3 0
  386 3ac 0 388 3ad 0 389 3ae 0 38a 3af 0 38c 3cc 0 38e 3cd 0 38f 3ce 0 390 1fd3 0 391 3b1 0
  392 3b2 3d0 0 393 3b3 0 394 3b4 0 395 3b5 3f5 0 396 3b6 0 397 3b7 0 398 3b8 3d1 3f4 0 39a
  3ba 3f0 0 39b 3bb 0 39d 3bd 0 39e 3be 0 39f 3bf 0 3a0 3c0 3d6 0 3a1 3c1 3f1 0 3a3 3c2 3c3 0
  3a4 3c4 0 3a5 3c5 0 3a6 3c6 3d5 0 3a7 3c7 0 3a8 3c8 0 3a9 3c9 2126 0 3aa 3ca 0 3ab 3cb 0 3b0
  1fe3 0 3cf 3d7 0 3d8 3d9 0 3da 3db 0 3dc 3dd 0 3de 3df 0 3e0 3e1 0 3e2 3e3 0 3e4 3e5 0 3e6
  3e7 0 3e8 3e9 0 3ea 3eb 0 3ec 3ed 0 3ee 3ef 0 3f2 3f9 0 3f7 3f8 0 3fa 3fb 0 400 450 0 401
  451 0 402 452 0 403 453 0 404 454 0 405 455 0 406 456 0 407 457 0 408 458 0 409 459 0 40a
  45a 0 40b 45b 0 40c 45c 0 40d 45d 0 40e 45e 0 40f 45f 0 410 430 0 411 431 0 412 432 1c80 0
  413 433 0 414 434 1c81 0 415 435 0 416 436 0 417 437 0 418 438 0 419 439 0 41a 43a 0 41b 43b
  0 41c 43c 0 41d 43d 0 41e 43e 1c82 0 41f 43f 0 420 440 0 421 441 1c83 0 422 442 1c84 1c85 0
  423 443 0 424 444 0 425 445 0 426 446 0 427 447 0 428 448 0 429 449 0 42a 44a 1c86 0 42b 44b
  0 42c 44c 0 42d 44d 0 42e 44e 0 42f 44f 0 460 461 0 462 463 1c87 0 464 465 0 466 467 0 468
  469 0 46a 46b 0 46c 46d 0 46e 46f 0 470 471 0 472 473 0 474 475 0 476 477 0 478 479 0 47a
  47b 0 47c 47d 0 47e 47f 0 480 481 0 48a 48b 0 48c 48d 0 48e 48f 0 490 491 0 492 493 0 494
  495 0 496 497 0 498 499 0 49a 49b 0 49c 49d 0 49e 49f 0 4a0 4a1 0 4a2 4a3 0 4a4 4a5 0 4a6
  4a7 0 4a8 4a9 0 4aa 4ab 0 4ac 4ad 0 4ae 4af 0 4b0 4b1 0 4b2 4b3 0 4b4 4b5 0 4b6 4b7 0 4b8
  4b9 0 4ba 4bb 0 4bc 4bd 0 4be 4bf 0 4c0 4cf 0 4c1 4c2 0 4c3 4c4 0 4c5 4c6 0 4c7 4c8 0 4c9
  4ca 0 4cb 4cc 0 4cd 4ce 0 4d0 4d1 0 4d2 4d3 0 4d4 4d5 0 4d6 4d7 0 4d8 4d9 0 4da 4db 0 4dc
  4dd 0 4de 4df 0 4e0 4e1 0 4e2 4e3 0 4e4 4e5 0 4e6 4e7 0 4e8 4e9 0 4ea 4eb 0 4ec 4ed 0 4ee
  4ef 0 4f0 4f1 0 4f2 4f3 0 4f4 4f5 0 4f6 4f7 0 4f8 4f9 0 4fa 4fb 0 4fc 4fd 0 4fe 4ff 0 500
  501 0 502 503 0 504 505 0 506 507 0 508 509 0 50a 50b 0 50c 50d 0 50e 50f 0 510 511 0 512
  513 0 514 515 0 516 517 0 518 519 0 51a 51b 0 51c 51d 0 51e 51f 0 520 521 0 522 523 0 524
  525 0 526 527 0 528 529 0 52a 52b 0 52c 52d 0 52e 52f 0 531 561 0 532 562 0 533 563 0 534
  564 0 535 565 0 536 566 0 537 567 0 538 568 0 539 569 0 53a 56a 0 53b 56b 0 53c 56c 0 53d
  56d 0 53e 56e 0 53f 56f 0 540 570 0 541 571 0 542 572 0 543 573 0 544 574 0 545 575 0 546
  576 0 547 577 0 548 578 0 549 579 0 54a 57a 0 54b 57b 0 54c 57c 0 54d 57d 0 54e 57e 0 54f
  57f 0 550 580 0 551 581 0 552 582 0 553 583 0 554 584 0 555 585 0 556 586 0 10a0 2d00 0 10a1
  2d01 0 10a2 2d02 0 10a3 2d03 0 10a4 2d04 0 10a5 2d05 0 10a6 2d06 0 10a7 2d07 0 10a8 2d08 0
  10a9 2d09 0 10aa 2d0a 0 10ab 2d0b 0 10ac 2d0c 0 10ad 2d0d 0 10ae 2d0e 0 10af 2d0f 0 10b0
  2d10 0 10b1 2d11 0 10b2 2d12 0 10b3 2d13 0 10b4 2d14 0 10b5 2d15 0 10b6 2d16 0 10b7 2d17 0
  10b8 2d18 0 10b9 2d19 0 10ba 2d1a 0 10bb 2d1b 0 10bc 2d1c 0 10bd 2d1d 0 10be 2d1e 0 10bf
  2d1f 0 10c0 2d20 0 10c1 2d21 0 10c2 2d22 0 10c3 2d23 0 10c4 2d24 0 10c5 2d25 0 10c7 2d27 0
  10cd 2d2d 0 10d0 1c90 0 10d1 1c91 0 10d2 1c92 0 10d3 1c93 0 10d4 1c94 0 10d5 1c95 0 10d6
  1c96 0 10d7 1c97 0 10d8 1c98 0 10d9 1c99 0 10da 1c9a 0 10db 1c9b 0 10dc 1c9c 0 10dd 1c9d 0
  10de 1c9e 0 10df 1c9f 0 10e0 1ca0 0 10e1 1ca1 0 10e2 1ca2 0 10e3 1ca3 0 10e4 1ca4 0 10e5
  1ca5 0 10e6 1ca6 0 10e7 1ca7 0 10e8 1ca8 0 10e9 1ca9 0 10ea 1caa 0 10eb 1cab 0 10ec 1cac 0
  10ed 1cad 0 10ee 1cae 0 10ef 1caf 0 10f0 1cb0 0 10f1 1cb1 0 10f2 1cb2 0 10f3 1cb3 0 10f4
  1cb4 0 10f5 1cb5 0 10f6 1cb6 0 10f7 1cb7 0 10f8 1cb8 0 10f9 1cb9 0 10fa 1cba 0 10fd 1cbd 0
  10fe 1cbe 0 10ff 1cbf 0 13a0 ab70 0 13a1 ab71 0 13a2 ab72 0 13a3 ab73 0 13a4 ab74 0 13a5
  ab75 0 13a6 ab76 0 13a7 ab77 0 13a8 ab78 0 13a9 ab79 0 13aa ab7a 0 13ab ab7b 0 13ac ab7c 0
  13ad ab7d 0 13ae ab7e 0 13af ab7f 0 13b0 ab80 0 13b1 ab81 0 13b2 ab82 0 13b3 ab83 0 13b4
  ab84 0 13b5 ab85 0 13b6 ab86 0 13b7 ab87 0 13b8 ab88 0 13b9 ab89 0 13ba ab8a 0 13bb ab8b 0
  13bc ab8c 0 13bd ab8d 0 13be ab8e 0 13bf ab8f 0 13c0 ab90 0 13c1 ab91 0 13c2 ab92 0 13c3
  ab93 0 13c4 ab94 0 13c5 ab95 0 13c6 ab96 0 13c7 ab97 0 13c8 ab98 0 13c9 ab99 0 13ca ab9a 0
  13cb ab9b 0 13cc ab9c 0 13cd ab9d 0 13ce ab9e 0 13cf ab9f 0 13d0 aba0 0 13d1 aba1 0 13d2
  aba2 0 13d3 aba3 0 13d4 aba4 0 13d5 aba5 0 13d6 aba6 0 13d7 aba7 0 13d8 aba8 0 13d9 aba9 0
  13da abaa 0 13db abab 0 13dc abac 0 13dd abad 0 13de abae 0 13df abaf 0 13e0 abb0 0 13e1
  abb1 0 13e2 abb2 0 13e3 abb3 0 13e4 abb4 0 13e5 abb5 0 13e6 abb6 0 13e7 abb7 0 13e8 abb8 0
  13e9 abb9 0 13ea abba 0 13eb abbb 0 13ec abbc 0 13ed abbd 0 13ee abbe 0 13ef abbf 0 13f0
  13f8 0 13f1 13f9 0 13f2 13fa 0 13f3 13fb 0 13f4 13fc 0 13f5 13fd 0 1c88 a64a a64b 0 1c89
  1c8a 0 1d79 a77d 0 1d7d 2c63 0 1d8e a7c6 0 1e00 1e01 0 1e02 1e03 0 1e04 1e05 0 1e06 1e07 0
  1e08 1e09 0 1e0a 1e0b 0 1e0c 1e0d 0 1e0e 1e0f 0 1e10 1e11 0 1e12 1e13 0 1e14 1e15 0 1e16
  1e17 0 1e18 1e19 0 1e1a 1e1b 0 1e1c 1e1d 0 1e1e 1e1f 0 1e20 1e21 0 1e22 1e23 0 1e24 1e25 0
  1e26 1e27 0 1e28 1e29 0 1e2a 1e2b 0 1e2c 1e2d 0 1e2e 1e2f 0 1e30 1e31 0 1e32 1e33 0 1e34
  1e35 0 1e36 1e37 0 1e38 1e39 0 1e3a 1e3b 0 1e3c 1e3d 0 1e3e 1e3f 0 1e40 1e41 0 1e42 1e43 0
  1e44 1e45 0 1e46 1e47 0 1e48 1e49 0 1e4a 1e4b 0 1e4c 1e4d 0 1e4e 1e4f 0 1e50 1e51 0 1e52
  1e53 0 1e54 1e55 0 1e56 1e57 0 1e58 1e59 0 1e5a 1e5b 0 1e5c 1e5d 0 1e5e 1e5f 0 1e60 1e61
  1e9b 0 1e62 1e63 0 1e64 1e65 0 1e66 1e67 0 1e68 1e69 0 1e6a 1e6b 0 1e6c 1e6d 0 1e6e 1e6f 0
  1e70 1e71 0 1e72 1e73 0 1e74 1e75 0 1e76 1e77 0 1e78 1e79 0 1e7a 1e7b 0 1e7c 1e7d 0 1e7e
  1e7f 0 1e80 1e81 0 1e82 1e83 0 1e84 1e85 0 1e86 1e87 0 1e88 1e89 0 1e8a 1e8b 0 1e8c 1e8d 0
  1e8e 1e8f 0 1e90 1e91 0 1e92 1e93 0 1e94 1e95 0 1ea0 1ea1 0 1ea2 1ea3 0 1ea4 1ea5 0 1ea6
  1ea7 0 1ea8 1ea9 0 1eaa 1eab 0 1eac 1ead 0 1eae 1eaf 0 1eb0 1eb1 0 1eb2 1eb3 0 1eb4 1eb5 0
  1eb6 1eb7 0 1eb8 1eb9 0 1eba 1ebb 0 1ebc 1ebd 0 1ebe 1ebf 0 1ec0 1ec1 0 1ec2 1ec3 0 1ec4
  1ec5 0 1ec6 1ec7 0 1ec8 1ec9 0 1eca 1ecb 0 1ecc 1ecd 0 1ece 1ecf 0 1ed0 1ed1 0 1ed2 1ed3 0
  1ed4 1ed5 0 1ed6 1ed7 0 1ed8 1ed9 0 1eda 1edb 0 1edc 1edd 0 1ede 1edf 0 1ee0 1ee1 0 1ee2
  1ee3 0 1ee4 1ee5 0 1ee6 1ee7 0 1ee8 1ee9 0 1eea 1eeb 0 1eec 1eed 0 1eee 1eef 0 1ef0 1ef1 0
  1ef2 1ef3 0 1ef4 1ef5 0 1ef6 1ef7 0 1ef8 1ef9 0 1efa 1efb 0 1efc 1efd 0 1efe 1eff 0 1f00
  1f08 0 1f01 1f09 0 1f02 1f0a 0 1f03 1f0b 0 1f04 1f0c 0 1f05 1f0d 0 1f06 1f0e 0 1f07 1f0f 0
  1f10 1f18 0 1f11 1f19 0 1f12 1f1a 0 1f13 1f1b 0 1f14 1f1c 0 1f15 1f1d 0 1f20 1f28 0 1f21
  1f29 0 1f22 1f2a 0 1f23 1f2b 0 1f24 1f2c 0 1f25 1f2d 0 1f26 1f2e 0 1f27 1f2f 0 1f30 1f38 0
  1f31 1f39 0 1f32 1f3a 0 1f33 1f3b 0 1f34 1f3c 0 1f35 1f3d 0 1f36 1f3e 0 1f37 1f3f 0 1f40
  1f48 0 1f41 1f49 0 1f42 1f4a 0 1f43 1f4b 0 1f44 1f4c 0 1f45 1f4d 0 1f51 1f59 0 1f53 1f5b 0
  1f55 1f5d 0 1f57 1f5f 0 1f60 1f68 0 1f61 1f69 0 1f62 1f6a 0 1f63 1f6b 0 1f64 1f6c 0 1f65
  1f6d 0 1f66 1f6e 0 1f67 1f6f 0 1f70 1fba 0 1f71 1fbb 0 1f72 1fc8 0 1f73 1fc9 0 1f74 1fca 0
  1f75 1fcb 0 1f76 1fda 0 1f77 1fdb 0 1f78 1ff8 0 1f79 1ff9 0 1f7a 1fea 0 1f7b 1feb 0 1f7c
  1ffa 0 1f7d 1ffb 0 1f80 1f88 0 1f81 1f89 0 1f82 1f8a 0 1f83 1f8b 0 1f84 1f8c 0 1f85 1f8d 0
  1f86 1f8e 0 1f87 1f8f 0 1f90 1f98 0 1f91 1f99 0 1f92 1f9a 0 1f93 1f9b 0 1f94 1f9c 0 1f95
  1f9d 0 1f96 1f9e 0 1f97 1f9f 0 1fa0 1fa8 0 1fa1 1fa9 0 1fa2 1faa 0 1fa3 1fab 0 1fa4 1fac 0
  1fa5 1fad 0 1fa6 1fae 0 1fa7 1faf 0 1fb0 1fb8 0 1fb1 1fb9 0 1fb3 1fbc 0 1fc3 1fcc 0 1fd0
  1fd8 0 1fd1 1fd9 0 1fe0 1fe8 0 1fe1 1fe9 0 1fe5 1fec 0 1ff3 1ffc 0 2132 214e 0 2160 2170 0
  2161 2171 0 2162 2172 0 2163 2173 0 2164 2174 0 2165 2175 0 2166 2176 0 2167 2177 0 2168
  2178 0 2169 2179 0 216a 217a 0 216b 217b 0 216c 217c 0 216d 217d 0 216e 217e 0 216f 217f 0
  2183 2184 0 24b6 24d0 0 24b7 24d1 0 24b8 24d2 0 24b9 24d3 0 24ba 24d4 0 24bb 24d5 0 24bc
  24d6 0 24bd 24d7 0 24be 24d8 0 24bf 24d9 0 24c0 24da 0 24c1 24db 0 24c2 24dc 0 24c3 24dd 0
  24c4 24de 0 24c5 24df 0 24c6 24e0 0 24c7 24e1 0 24c8 24e2 0 24c9 24e3 0 24ca 24e4 0 24cb
  24e5 0 24cc 24e6 0 24cd 24e7 0 24ce 24e8 0 24cf 24e9 0 2c00 2c30 0 2c01 2c31 0 2c02 2c32 0
  2c03 2c33 0 2c04 2c34 0 2c05 2c35 0 2c06 2c36 0 2c07 2c37 0 2c08 2c38 0 2c09 2c39 0 2c0a
  2c3a 0 2c0b 2c3b 0 2c0c 2c3c 0 2c0d 2c3d 0 2c0e 2c3e 0 2c0f 2c3f 0 2c10 2c40 0 2c11 2c41 0
  2c12 2c42 0 2c13 2c43 0 2c14 2c44 0 2c15 2c45 0 2c16 2c46 0 2c17 2c47 0 2c18 2c48 0 2c19
  2c49 0 2c1a 2c4a 0 2c1b 2c4b 0 2c1c 2c4c 0 2c1d 2c4d 0 2c1e 2c4e 0 2c1f 2c4f 0 2c20 2c50 0
  2c21 2c51 0 2c22 2c52 0 2c23 2c53 0 2c24 2c54 0 2c25 2c55 0 2c26 2c56 0 2c27 2c57 0 2c28
  2c58 0 2c29 2c59 0 2c2a 2c5a 0 2c2b 2c5b 0 2c2c 2c5c 0 2c2d 2c5d 0 2c2e 2c5e 0 2c2f 2c5f 0
  2c60 2c61 0 2c67 2c68 0 2c69 2c6a 0 2c6b 2c6c 0 2c72 2c73 0 2c75 2c76 0 2c80 2c81 0 2c82
  2c83 0 2c84 2c85 0 2c86 2c87 0 2c88 2c89 0 2c8a 2c8b 0 2c8c 2c8d 0 2c8e 2c8f 0 2c90 2c91 0
  2c92 2c93 0 2c94 2c95 0 2c96 2c97 0 2c98 2c99 0 2c9a 2c9b 0 2c9c 2c9d 0 2c9e 2c9f 0 2ca0
  2ca1 0 2ca2 2ca3 0 2ca4 2ca5 0 2ca6 2ca7 0 2ca8 2ca9 0 2caa 2cab 0 2cac 2cad 0 2cae 2caf 0
  2cb0 2cb1 0 2cb2 2cb3 0 2cb4 2cb5 0 2cb6 2cb7 0 2cb8 2cb9 0 2cba 2cbb 0 2cbc 2cbd 0 2cbe
  2cbf 0 2cc0 2cc1 0 2cc2 2cc3 0 2cc4 2cc5 0 2cc6 2cc7 0 2cc8 2cc9 0 2cca 2ccb 0 2ccc 2ccd 0
  2cce 2ccf 0 2cd0 2cd1 0 2cd2 2cd3 0 2cd4 2cd5 0 2cd6 2cd7 0 2cd8 2cd9 0 2cda 2cdb 0 2cdc
  2cdd 0 2cde 2cdf 0 2ce0 2ce1 0 2ce2 2ce3 0 2ceb 2cec 0 2ced 2cee 0 2cf2 2cf3 0 a640 a641 0
  a642 a643 0 a644 a645 0 a646 a647 0 a648 a649 0 a64c a64d 0 a64e a64f 0 a650 a651 0 a652
  a653 0 a654 a655 0 a656 a657 0 a658 a659 0 a65a a65b 0 a65c a65d 0 a65e a65f 0 a660 a661 0
  a662 a663 0 a664 a665 0 a666 a667 0 a668 a669 0 a66a a66b 0 a66c a66d 0 a680 a681 0 a682
  a683 0 a684 a685 0 a686 a687 0 a688 a689 0 a68a a68b 0 a68c a68d 0 a68e a68f 0 a690 a691 0
  a692 a693 0 a694 a695 0 a696 a697 0 a698 a699 0 a69a a69b 0 a722 a723 0 a724 a725 0 a726
  a727 0 a728 a729 0 a72a a72b 0 a72c a72d 0 a72e a72f 0 a732 a733 0 a734 a735 0 a736 a737 0
  a738 a739 0 a73a a73b 0 a73c a73d 0 a73e a73f 0 a740 a741 0 a742 a743 0 a744 a745 0 a746
  a747 0 a748 a749 0 a74a a74b 0 a74c a74d 0 a74e a74f 0 a750 a751 0 a752 a753 0 a754 a755 0
  a756 a757 0 a758 a759 0 a75a a75b 0 a75c a75d 0 a75e a75f 0 a760 a761 0 a762 a763 0 a764
  a765 0 a766 a767 0 a768 a769 0 a76a a76b 0 a76c a76d 0 a76e a76f 0 a779 a77a 0 a77b a77c 0
  a77e a77f 0 a780 a781 0 a782 a783 0 a784 a785 0 a786 a787 0 a78b a78c 0 a790 a791 0 a792
  a793 0 a794 a7c4 0 a796 a797 0 a798 a799 0 a79a a79b 0 a79c a79d 0 a79e a79f 0 a7a0 a7a1 0
  a7a2 a7a3 0 a7a4 a7a5 0 a7a6 a7a7 0 a7a8 a7a9 0 a7b3 ab53 0 a7b4 a7b5 0 a7b6 a7b7 0 a7b8
  a7b9 0 a7ba a7bb 0 a7bc a7bd 0 a7be a7bf 0 a7c0 a7c1 0 a7c2 a7c3 0 a7c7 a7c8 0 a7c9 a7ca 0
  a7cc a7cd 0 a7ce a7cf 0 a7d0 a7d1 0 a7d2 a7d3 0 a7d4 a7d5 0 a7d6 a7d7 0 a7d8 a7d9 0 a7da
  a7db 0 a7f5 a7f6 0 fb05 fb06 0 ff21 ff41 0 ff22 ff42 0 ff23 ff43 0 ff24 ff44 0 ff25 ff45 0
  ff26 ff46 0 ff27 ff47 0 ff28 ff48 0 ff29 ff49 0 ff2a ff4a 0 ff2b ff4b 0 ff2c ff4c 0 ff2d
  ff4d 0 ff2e ff4e 0 ff2f ff4f 0 ff30 ff50 0 ff31 ff51 0 ff32 ff52 0 ff33 ff53 0 ff34 ff54 0
  ff35 ff55 0 ff36 ff56 0 ff37 ff57 0 ff38 ff58 0 ff39 ff59 0 ff3a ff5a 0 10400 10428 0 10401
  10429 0 10402 1042a 0 10403 1042b 0 10404 1042c 0 10405 1042d 0 10406 1042e 0 10407 1042f 0
  10408 10430 0 10409 10431 0 1040a 10432 0 1040b 10433 0 1040c 10434 0 1040d 10435 0 1040e
  10436 0 1040f 10437 0 10410 10438 0 10411 10439 0 10412 1043a 0 10413 1043b 0 10414 1043c 0
  10415 1043d 0 10416 1043e 0 10417 1043f 0 10418 10440 0 10419 10441 0 1041a 10442 0 1041b
  10443 0 1041c 10444 0 1041d 10445 0 1041e 10446 0 1041f 10447 0 10420 10448 0 10421 10449 0
  10422 1044a 0 10423 1044b 0 10424 1044c 0 10425 1044d 0 10426 1044e 0 10427 1044f 0 104b0
  104d8 0 104b1 104d9 0 104b2 104da 0 104b3 104db 0 104b4 104dc 0 104b5 104dd 0 104b6 104de 0
  104b7 104df 0 104b8 104e0 0 104b9 104e1 0 104ba 104e2 0 104bb 104e3 0 104bc 104e4 0 104bd
  104e5 0 104be 104e6 0 104bf 104e7 0 104c0 104e8 0 104c1 104e9 0 104c2 104ea 0 104c3 104eb 0
  104c4 104ec 0 104c5 104ed 0 104c6 104ee 0 104c7 104ef 0 104c8 104f0 0 104c9 104f1 0 104ca
  104f2 0 104cb 104f3 0 104cc 104f4 0 104cd 104f5 0 104ce 104f6 0 104cf 104f7 0 104d0 104f8 0
  104d1 104f9 0 104d2 104fa 0 104d3 104fb 0 10570 10597 0 10571 10598 0 10572 10599 0 10573
  1059a 0 10574 1059b 0 10575 1059c 0 10576 1059d 0 10577 1059e 0 10578 1059f 0 10579 105a0 0
  1057a 105a1 0 1057c 105a3 0 1057d 105a4 0 1057e 105a5 0 1057f 105a6 0 10580 105a7 0 10581
  105a8 0 10582 105a9 0 10583 105aa 0 10584 105ab 0 10585 105ac 0 10586 105ad 0 10587 105ae 0
  10588 105af 0 10589 105b0 0 1058a 105b1 0 1058c 105b3 0 1058d 105b4 0 1058e 105b5 0 1058f
  105b6 0 10590 105b7 0 10591 105b8 0 10592 105b9 0 10594 105bb 0 10595 105bc 0 10c80 10cc0 0
  10c81 10cc1 0 10c82 10cc2 0 10c83 10cc3 0 10c84 10cc4 0 10c85 10cc5 0 10c86 10cc6 0 10c87
  10cc7 0 10c88 10cc8 0 10c89 10cc9 0 10c8a 10cca 0 10c8b 10ccb 0 10c8c 10ccc 0 10c8d 10ccd 0
  10c8e 10cce 0 10c8f 10ccf 0 10c90 10cd0 0 10c91 10cd1 0 10c92 10cd2 0 10c93 10cd3 0 10c94
  10cd4 0 10c95 10cd5 0 10c96 10cd6 0 10c97 10cd7 0 10c98 10cd8 0 10c99 10cd9 0 10c9a 10cda 0
  10c9b 10cdb 0 10c9c 10cdc 0 10c9d 10cdd 0 10c9e 10cde 0 10c9f 10cdf 0 10ca0 10ce0 0 10ca1
  10ce1 0 10ca2 10ce2 0 10ca3 10ce3 0 10ca4 10ce4 0 10ca5 10ce5 0 10ca6 10ce6 0 10ca7 10ce7 0
  10ca8 10ce8 0 10ca9 10ce9 0 10caa 10cea 0 10cab 10ceb 0 10cac 10cec 0 10cad 10ced 0 10cae
  10cee 0 10caf 10cef 0 10cb0 10cf0 0 10cb1 10cf1 0 10cb2 10cf2 0 10d50 10d70 0 10d51 10d71 0
  10d52 10d72 0 10d53 10d73 0 10d54 10d74 0 10d55 10d75 0 10d56 10d76 0 10d57 10d77 0 10d58
  10d78 0 10d59 10d79 0 10d5a 10d7a 0 10d5b 10d7b 0 10d5c 10d7c 0 10d5d 10d7d 0 10d5e 10d7e 0
  10d5f 10d7f 0 10d60 10d80 0 10d61 10d81 0 10d62 10d82 0 10d63 10d83 0 10d64 10d84 0 10d65
  10d85 0 118a0 118c0 0 118a1 118c1 0 118a2 118c2 0 118a3 118c3 0 118a4 118c4 0 118a5 118c5 0
  118a6 118c6 0 118a7 118c7 0 118a8 118c8 0 118a9 118c9 0 118aa 118ca 0 118ab 118cb 0 118ac
  118cc 0 118ad 118cd 0 118ae 118ce 0 118af 118cf 0 118b0 118d0 0 118b1 118d1 0 118b2 118d2 0
  118b3 118d3 0 118b4 118d4 0 118b5 118d5 0 118b6 118d6 0 118b7 118d7 0 118b8 118d8 0 118b9
  118d9 0 118ba 118da 0 118bb 118db 0 118bc 118dc 0 118bd 118dd 0 118be 118de 0 118bf 118df 0
  16e40 16e60 0 16e41 16e61 0 16e42 16e62 0 16e43 16e63 0 16e44 16e64 0 16e45 16e65 0 16e46
  16e66 0 16e47 16e67 0 16e48 16e68 0 16e49 16e69 0 16e4a 16e6a 0 16e4b 16e6b 0 16e4c 16e6c 0
  16e4d 16e6d 0 16e4e 16e6e 0 16e4f 16e6f 0 16e50 16e70 0 16e51 16e71 0 16e52 16e72 0 16e53
  16e73 0 16e54 16e74 0 16e55 16e75 0 16e56 16e76 0 16e57 16e77 0 16e58 16e78 0 16e59 16e79 0
  16e5a 16e7a 0 16e5b 16e7b 0 16e5c 16e7c 0 16e5d 16e7d 0 16e5e 16e7e 0 16e5f 16e7f 0 16ea0
  16ebb 0 16ea1 16ebc 0 16ea2 16ebd 0 16ea3 16ebe 0 16ea4 16ebf 0 16ea5 16ec0 0 16ea6 16ec1 0
  16ea7 16ec2 0 16ea8 16ec3 0 16ea9 16ec4 0 16eaa 16ec5 0 16eab 16ec6 0 16eac 16ec7 0 16ead
  16ec8 0 16eae 16ec9 0 16eaf 16eca 0 16eb0 16ecb 0 16eb1 16ecc 0 16eb2 16ecd 0 16eb3 16ece 0
  16eb4 16ecf 0 16eb5 16ed0 0 16eb6 16ed1 0 16eb7 16ed2 0 16eb8 16ed3 0 1e900 1e922 0 1e901
  1e923 0 1e902 1e924 0 1e903 1e925 0 1e904 1e926 0 1e905 1e927 0 1e906 1e928 0 1e907 1e929 0
  1e908 1e92a 0 1e909 1e92b 0 1e90a 1e92c 0 1e90b 1e92d 0 1e90c 1e92e 0 1e90d 1e92f 0 1e90e
  1e930 0 1e90f 1e931 0 1e910 1e932 0 1e911 1e933 0 1e912 1e934 0 1e913 1e935 0 1e914 1e936 0
  1e915 1e937 0 1e916 1e938 0 1e917 1e939 0 1e918 1e93a 0 1e919 1e93b 0 1e91a 1e93c 0 1e91b
  1e93d 0 1e91c 1e93e 0 1e91d 1e93f 0 1e91e 1e940 0 1e91f 1e941 0 1e920 1e942 0 1e921 1e943 0").foldl
    (fun (acc : List (List Nat) × List Nat) word =>
      match (readHex 0 word).1 with
      | 0 => (acc.2.reverse :: acc.1, [])
      | c => (acc.1, c :: acc.2)) ([], [])).1.reverse

/-- Values attached to single code points, in ascending order of the code points. -/
structure PointTable (α : Type) where
  /-- The code points, in ascending order. -/
  keys : Array Nat
  /-- The value of each. -/
  values : Array α
deriving Inhabited

/-- The value at a code point, if there is one. -/
def PointTable.get? {α : Type} (t : PointTable α) (c : Nat) : Option α :=
  let i := rank t.keys c 0 t.keys.size - 1
  if t.keys[i]? = some c then t.values[i]? else none

/-- The table of a list of entries. -/
def PointTable.ofList {α : Type} (entries : List (Nat × α)) : PointTable α :=
  let sorted := entries.mergeSort fun a b => a.1 ≤ b.1
  ⟨(sorted.map (·.1)).toArray, (sorted.map (·.2)).toArray⟩

/-- Each character that shares its fold with another, and all characters of that fold. -/
def foldTable : PointTable (List Nat) :=
  .ofList (foldOrbits.flatMap fun orbit => orbit.map fun c => (c, orbit))

/-- The characters that simple case folding identifies with a character, itself included. -/
def foldOrbit (c : Nat) : List Nat :=
  (foldTable.get? c).getD [c]

/-- The characters whose lower case is another single character, in runs: the first character of a
run, the number of characters, the distance between them, and the lower case of the first; a run
keeps the distance from a character to its lower case. -/
def lowerRuns : String :=
  "41 1a 1 61 c0 17 1 e0 d8 7 1 f8 100 18 2 101 132 3 2 133 139 8 2 13a 14a 17 2 14b 178 1 1 ff
  179 3 2 17a 181 1 1 253 182 2 2 183 186 1 1 254 187 1 1 188 189 2 1 256 18b 1 1 18c 18e 1 1
  1dd 18f 1 1 259 190 1 1 25b 191 1 1 192 193 1 1 260 194 1 1 263 196 1 1 269 197 1 1 268 198
  1 1 199 19c 1 1 26f 19d 1 1 272 19f 1 1 275 1a0 3 2 1a1 1a6 1 1 280 1a7 1 1 1a8 1a9 1 1 283
  1ac 1 1 1ad 1ae 1 1 288 1af 1 1 1b0 1b1 2 1 28a 1b3 2 2 1b4 1b7 1 1 292 1b8 1 1 1b9 1bc 1 1
  1bd 1c4 1 1 1c6 1c5 1 1 1c6 1c7 1 1 1c9 1c8 1 1 1c9 1ca 1 1 1cc 1cb 9 2 1cc 1de 9 2 1df 1f1
  1 1 1f3 1f2 2 2 1f3 1f6 1 1 195 1f7 1 1 1bf 1f8 14 2 1f9 220 1 1 19e 222 9 2 223 23a 1 1
  2c65 23b 1 1 23c 23d 1 1 19a 23e 1 1 2c66 241 1 1 242 243 1 1 180 244 1 1 289 245 1 1 28c
  246 5 2 247 370 2 2 371 376 1 1 377 37f 1 1 3f3 386 1 1 3ac 388 3 1 3ad 38c 1 1 3cc 38e 2 1
  3cd 391 11 1 3b1 3a3 9 1 3c3 3cf 1 1 3d7 3d8 c 2 3d9 3f4 1 1 3b8 3f7 1 1 3f8 3f9 1 1 3f2 3fa
  1 1 3fb 3fd 3 1 37b 400 10 1 450 410 20 1 430 460 11 2 461 48a 1b 2 48b 4c0 1 1 4cf 4c1 7 2
  4c2 4d0 30 2 4d1 531 26 1 561 10a0 26 1 2d00 10c7 1 1 2d27 10cd 1 1 2d2d 13a0 50 1 ab70 13f0
  6 1 13f8 1c89 1 1 1c8a 1c90 2b 1 10d0 1cbd 3 1 10fd 1e00 4b 2 1e01 1e9e 1 1 df 1ea0 30 2
  1ea1 1f08 8 1 1f00 1f18 6 1 1f10 1f28 8 1 1f20 1f38 8 1 1f30 1f48 6 1 1f40 1f59 4 2 1f51
  1f68 8 1 1f60 1f88 8 1 1f80 1f98 8 1 1f90 1fa8 8 1 1fa0 1fb8 2 1 1fb0 1fba 2 1 1f70 1fbc 1 1
  1fb3 1fc8 4 1 1f72 1fcc 1 1 1fc3 1fd8 2 1 1fd0 1fda 2 1 1f76 1fe8 2 1 1fe0 1fea 2 1 1f7a
  1fec 1 1 1fe5 1ff8 2 1 1f78 1ffa 2 1 1f7c 1ffc 1 1 1ff3 2126 1 1 3c9 212a 1 1 6b 212b 1 1 e5
  2132 1 1 214e 2160 10 1 2170 2183 1 1 2184 24b6 1a 1 24d0 2c00 30 1 2c30 2c60 1 1 2c61 2c62
  1 1 26b 2c63 1 1 1d7d 2c64 1 1 27d 2c67 3 2 2c68 2c6d 1 1 251 2c6e 1 1 271 2c6f 1 1 250 2c70
  1 1 252 2c72 1 1 2c73 2c75 1 1 2c76 2c7e 2 1 23f 2c80 32 2 2c81 2ceb 2 2 2cec 2cf2 1 1 2cf3
  a640 17 2 a641 a680 e 2 a681 a722 7 2 a723 a732 1f 2 a733 a779 2 2 a77a a77d 1 1 1d79 a77e 5
  2 a77f a78b 1 1 a78c a78d 1 1 265 a790 2 2 a791 a796 a 2 a797 a7aa 1 1 266 a7ab 1 1 25c a7ac
  1 1 261 a7ad 1 1 26c a7ae 1 1 26a a7b0 1 1 29e a7b1 1 1 287 a7b2 1 1 29d a7b3 1 1 ab53 a7b4
  8 2 a7b5 a7c4 1 1 a794 a7c5 1 1 282 a7c6 1 1 1d8e a7c7 2 2 a7c8 a7cb 1 1 264 a7cc 8 2 a7cd
  a7dc 1 1 19b a7f5 1 1 a7f6 ff21 1a 1 ff41 10400 28 1 10428 104b0 24 1 104d8 10570 b 1 10597
  1057c f 1 105a3 1058c 7 1 105b3 10594 2 1 105bb 10c80 33 1 10cc0 10d50 16 1 10d70 118a0 20 1
  118c0 16e40 20 1 16e60 16ea0 19 1 16ebb 1e900 22 1 1e922"

/-- Expands runs of characters with their lower case. -/
def expandRuns : List Nat → List (Nat × Nat)
  | first :: count :: step :: lower :: rest =>
    (List.range count).map (fun i => (first + i * step, lower + i * step)) ++ expandRuns rest
  | _ => []

/-- Each character whose lower case is another single character, and that character. -/
def lowerTable : PointTable Nat :=
  .ofList (expandRuns ((words lowerRuns).toList.map fun word => (readHex 0 word).1))

/-- The single character that is the lower case of a character, itself where there is none. -/
def lowerOf (c : Nat) : Nat :=
  (lowerTable.get? c).getD c

/-- Whether the lower case of a character differs from it. -/
def changesWhenLowercased (c : Nat) : Bool :=
  c == 0x130 || lowerOf c != c

/-- Whether the title case of a character differs from it. -/
def changesWhenTitlecased (c : Nat) : Bool :=
  changesWhenUppercased.mem c != titlecaseUnlikeUppercase.mem c

/-- Whether the folded case of a character differs from it. -/
def changesWhenCasefolded (c : Nat) : Bool :=
  changesWhenLowercased c != foldedUnlikeLowercase.mem c

/-- Whether some mapping of case changes a character. -/
def changesWhenCasemapped (c : Nat) : Bool :=
  changesWhenLowercased c || changesWhenUppercased.mem c || changesWhenTitlecased c

end ClaExemption.Unicode
