import DocumentSchema.Unicode.CharSet

/-!
# General categories

Every code point has exactly one of thirty general categories, known by a short and a long name.
Coarser categories are unions of these. Names are compared without case, blanks, hyphens and
underscores, so the tables list them in that form.
-/

namespace DocumentSchema.Unicode

/-- The category `Uppercase_Letter`. -/
def uppercaseLetter : CharSet := .ofTable
  "65 25 101 22 1 6 33 0 1 0 1 0 1 0 1 0 1 0 1 0 1 0 1 0 1 0 1 0 1 0 1 0 1 0 1 0 1 0 1 0 1 0 1
  0 1 0 1 0 1 0 1 0 1 0 1 0 1 0 1 0 1 0 2 0 1 0 1 0 1 0 1 0 1 0 1 0 1 0 2 0 1 0 1 0 1 0 1 0 1
  0 1 0 1 0 1 0 1 0 1 0 1 0 1 0 1 0 1 0 1 0 1 0 1 0 1 0 1 0 1 0 1 0 1 0 1 1 1 0 1 0 3 1 1 0 1
  1 1 2 2 3 1 1 1 2 3 1 1 1 1 0 1 0 1 1 1 0 2 0 1 1 1 2 1 0 1 1 3 0 7 0 2 0 2 0 2 0 1 0 1 0 1
  0 1 0 1 0 1 0 1 0 2 0 1 0 1 0 1 0 1 0 1 0 1 0 1 0 1 0 2 0 2 0 1 2 1 0 1 0 1 0 1 0 1 0 1 0 1
  0 1 0 1 0 1 0 1 0 1 0 1 0 1 0 1 0 1 0 1 0 1 0 1 0 1 0 1 0 1 0 1 0 1 0 1 0 1 0 1 0 1 0 1 0 7
  1 1 1 2 0 1 3 1 0 1 0 1 0 1 0 289 0 1 0 3 0 8 0 6 0 1 2 1 0 1 1 1 16 1 8 35 0 2 2 3 0 1 0 1
  0 1 0 1 0 1 0 1 0 1 0 1 0 1 0 1 0 1 0 5 0 2 0 1 1 2 50 48 0 1 0 1 0 1 0 1 0 1 0 1 0 1 0 1 0
  1 0 1 0 1 0 1 0 1 0 1 0 1 0 1 0 9 0 1 0 1 0 1 0 1 0 1 0 1 0 1 0 1 0 1 0 1 0 1 0 1 0 1 0 1 0
  1 0 1 0 1 0 1 0 1 0 1 0 1 0 1 0 1 0 1 0 1 0 1 0 1 1 1 0 1 0 1 0 1 0 1 0 1 0 2 0 1 0 1 0 1 0
  1 0 1 0 1 0 1 0 1 0 1 0 1 0 1 0 1 0 1 0 1 0 1 0 1 0 1 0 1 0 1 0 1 0 1 0 1 0 1 0 1 0 1 0 1 0
  1 0 1 0 1 0 1 0 1 0 1 0 1 0 1 0 1 0 1 0 1 0 1 0 1 0 1 0 1 0 1 0 1 0 1 0 1 0 1 0 1 0 2 37
  2889 37 1 0 5 0 722 85 2195 0 6 42 2 2 320 0 1 0 1 0 1 0 1 0 1 0 1 0 1 0 1 0 1 0 1 0 1 0 1 0
  1 0 1 0 1 0 1 0 1 0 1 0 1 0 1 0 1 0 1 0 1 0 1 0 1 0 1 0 1 0 1 0 1 0 1 0 1 0 1 0 1 0 1 0 1 0
  1 0 1 0 1 0 1 0 1 0 1 0 1 0 1 0 1 0 1 0 1 0 1 0 1 0 1 0 1 0 1 0 1 0 1 0 1 0 1 0 1 0 1 0 1 0
  1 0 1 0 1 0 1 0 1 0 1 0 1 0 1 0 1 0 1 0 1 0 1 0 1 0 1 0 1 0 1 0 9 0 1 0 1 0 1 0 1 0 1 0 1 0
  1 0 1 0 1 0 1 0 1 0 1 0 1 0 1 0 1 0 1 0 1 0 1 0 1 0 1 0 1 0 1 0 1 0 1 0 1 0 1 0 1 0 1 0 1 0
  1 0 1 0 1 0 1 0 1 0 1 0 1 0 1 0 1 0 1 0 1 0 1 0 1 0 1 0 1 0 1 0 1 0 1 0 1 0 9 7 8 5 10 7 8 7
  8 5 11 0 1 0 1 0 1 0 8 7 72 3 12 3 12 3 12 4 11 3 262 0 4 0 3 2 2 2 2 0 3 4 6 0 1 0 1 0 1 3
  2 3 10 1 5 0 61 0 2684 47 48 0 1 2 2 0 1 0 1 0 1 3 1 0 2 0 8 2 1 0 1 0 1 0 1 0 1 0 1 0 1 0 1
  0 1 0 1 0 1 0 1 0 1 0 1 0 1 0 1 0 1 0 1 0 1 0 1 0 1 0 1 0 1 0 1 0 1 0 1 0 1 0 1 0 1 0 1 0 1
  0 1 0 1 0 1 0 1 0 1 0 1 0 1 0 1 0 1 0 1 0 1 0 1 0 1 0 1 0 1 0 1 0 1 0 1 0 8 0 1 0 4 0 31053
  0 1 0 1 0 1 0 1 0 1 0 1 0 1 0 1 0 1 0 1 0 1 0 1 0 1 0 1 0 1 0 1 0 1 0 1 0 1 0 1 0 1 0 1 0 19
  0 1 0 1 0 1 0 1 0 1 0 1 0 1 0 1 0 1 0 1 0 1 0 1 0 1 0 135 0 1 0 1 0 1 0 1 0 1 0 1 0 3 0 1 0
  1 0 1 0 1 0 1 0 1 0 1 0 1 0 1 0 1 0 1 0 1 0 1 0 1 0 1 0 1 0 1 0 1 0 1 0 1 0 1 0 1 0 1 0 1 0
  1 0 1 0 1 0 1 0 1 0 1 0 10 0 1 0 1 1 1 0 1 0 1 0 1 0 4 0 1 0 2 0 1 0 3 0 1 0 1 0 1 0 1 0 1 0
  1 0 1 0 1 0 1 0 1 4 1 4 1 0 1 0 1 0 1 0 1 0 1 0 1 0 1 3 1 0 1 1 1 0 1 0 1 0 1 0 1 0 1 0 1 0
  1 0 24 0 22315 25 1221 39 136 35 156 10 1 14 1 6 1 1 1770 50 157 21 2874 31 21888 31 64 24
  25927 25 26 25 26 25 26 0 1 1 2 0 2 1 2 3 1 7 26 25 26 1 1 3 2 7 1 6 27 1 1 3 1 4 1 0 3 6 27
  25 26 25 26 25 26 25 26 25 26 25 30 24 33 24 33 24 33 24 33 24 33 0 4405 33"

/-- The category `Lowercase_Letter`. -/
def lowercaseLetter : CharSet := .ofTable
  "97 25 58 0 41 23 1 7 1 0 1 0 1 0 1 0 1 0 1 0 1 0 1 0 1 0 1 0 1 0 1 0 1 0 1 0 1 0 1 0 1 0 1 0
  1 0 1 0 1 0 1 0 1 0 1 0 1 0 1 0 1 0 1 1 1 0 1 0 1 0 1 0 1 0 1 0 1 0 1 1 1 0 1 0 1 0 1 0 1 0
  1 0 1 0 1 0 1 0 1 0 1 0 1 0 1 0 1 0 1 0 1 0 1 0 1 0 1 0 1 0 1 0 1 0 1 0 2 0 1 0 1 2 2 0 1 0
  2 0 3 1 4 0 2 0 3 2 2 0 2 0 1 0 1 0 2 0 1 1 1 0 2 0 3 0 1 0 2 1 2 2 6 0 2 0 2 0 1 0 1 0 1 0
  1 0 1 0 1 0 1 0 1 1 1 0 1 0 1 0 1 0 1 0 1 0 1 0 1 0 1 1 2 0 1 0 3 0 1 0 1 0 1 0 1 0 1 0 1 0
  1 0 1 0 1 0 1 0 1 0 1 0 1 0 1 0 1 0 1 0 1 0 1 0 1 0 1 0 1 0 1 0 1 0 1 0 1 0 1 0 1 0 1 0 1 6
  2 0 2 1 1 0 4 0 1 0 1 0 1 0 1 68 2 25 193 0 1 0 3 0 3 2 18 0 27 34 1 1 3 2 1 0 1 0 1 0 1 0 1
  0 1 0 1 0 1 0 1 0 1 0 1 0 1 4 1 0 2 0 2 1 51 47 1 0 1 0 1 0 1 0 1 0 1 0 1 0 1 0 1 0 1 0 1 0
  1 0 1 0 1 0 1 0 1 0 1 0 9 0 1 0 1 0 1 0 1 0 1 0 1 0 1 0 1 0 1 0 1 0 1 0 1 0 1 0 1 0 1 0 1 0
  1 0 1 0 1 0 1 0 1 0 1 0 1 0 1 0 1 0 1 0 2 0 1 0 1 0 1 0 1 0 1 0 1 1 1 0 1 0 1 0 1 0 1 0 1 0
  1 0 1 0 1 0 1 0 1 0 1 0 1 0 1 0 1 0 1 0 1 0 1 0 1 0 1 0 1 0 1 0 1 0 1 0 1 0 1 0 1 0 1 0 1 0
  1 0 1 0 1 0 1 0 1 0 1 0 1 0 1 0 1 0 1 0 1 0 1 0 1 0 1 0 1 0 1 0 1 0 1 0 1 0 48 40 2887 42 2
  2 760 5 2178 8 1 0 117 43 63 12 1 33 102 0 1 0 1 0 1 0 1 0 1 0 1 0 1 0 1 0 1 0 1 0 1 0 1 0 1
  0 1 0 1 0 1 0 1 0 1 0 1 0 1 0 1 0 1 0 1 0 1 0 1 0 1 0 1 0 1 0 1 0 1 0 1 0 1 0 1 0 1 0 1 0 1
  0 1 0 1 0 1 0 1 0 1 0 1 0 1 0 1 0 1 0 1 0 1 0 1 0 1 0 1 0 1 0 1 0 1 0 1 0 1 0 1 0 1 0 1 0 1
  0 1 0 1 0 1 0 1 0 1 0 1 0 1 0 1 0 1 0 1 0 1 0 1 0 1 0 1 0 1 8 1 0 1 0 1 0 1 0 1 0 1 0 1 0 1
  0 1 0 1 0 1 0 1 0 1 0 1 0 1 0 1 0 1 0 1 0 1 0 1 0 1 0 1 0 1 0 1 0 1 0 1 0 1 0 1 0 1 0 1 0 1
  0 1 0 1 0 1 0 1 0 1 0 1 0 1 0 1 0 1 0 1 0 1 0 1 0 1 0 1 0 1 0 1 0 1 0 1 8 8 5 10 7 8 7 8 5
  10 7 8 7 8 13 2 7 8 7 8 7 8 4 1 1 6 0 3 2 1 1 8 3 2 1 8 7 10 2 1 1 274 0 3 1 3 0 27 0 4 0 4
  0 2 1 8 3 4 0 53 0 2731 47 1 0 3 1 1 0 1 0 1 0 4 0 1 1 1 5 5 0 1 0 1 0 1 0 1 0 1 0 1 0 1 0 1
  0 1 0 1 0 1 0 1 0 1 0 1 0 1 0 1 0 1 0 1 0 1 0 1 0 1 0 1 0 1 0 1 0 1 0 1 0 1 0 1 0 1 0 1 0 1
  0 1 0 1 0 1 0 1 0 1 0 1 0 1 0 1 0 1 0 1 0 1 0 1 0 1 0 1 0 1 0 1 0 1 0 1 1 7 0 1 0 4 0 12 37
  1 0 5 0 30995 0 1 0 1 0 1 0 1 0 1 0 1 0 1 0 1 0 1 0 1 0 1 0 1 0 1 0 1 0 1 0 1 0 1 0 1 0 1 0
  1 0 1 0 1 0 19 0 1 0 1 0 1 0 1 0 1 0 1 0 1 0 1 0 1 0 1 0 1 0 1 0 1 0 135 0 1 0 1 0 1 0 1 0 1
  0 1 2 1 0 1 0 1 0 1 0 1 0 1 0 1 0 1 0 1 0 1 0 1 0 1 0 1 0 1 0 1 0 1 0 1 0 1 0 1 0 1 0 1 0 1
  0 1 0 1 0 1 0 1 0 1 0 1 0 1 0 1 0 1 0 1 7 1 0 1 0 2 0 1 0 1 0 1 0 1 0 4 0 1 0 2 0 1 2 1 0 1
  0 1 0 1 0 1 0 1 0 1 0 1 0 1 0 1 0 5 0 5 0 1 0 1 0 1 0 1 0 1 0 1 0 1 0 4 0 1 0 2 0 1 0 1 0 1
  0 1 0 1 0 1 0 1 0 26 0 3 0 821 42 5 8 7 79 20288 6 12 4 1065 25 1229 39 136 35 155 10 1 14 1
  6 1 1 1795 50 125 21 2874 31 21888 31 59 24 25926 25 26 6 1 17 26 25 26 3 1 0 1 6 1 10 26 25
  26 25 26 25 26 25 26 25 26 25 26 25 26 25 26 27 28 24 1 5 26 24 1 5 26 24 1 5 26 24 1 5 26
  24 1 5 1 0 1844 9 1 19 6 5 2551 33"

/-- The category `Titlecase_Letter`. -/
def titlecaseLetter : CharSet := .ofTable
  "453 0 2 0 2 0 38 0 7573 7 8 7 8 7 12 0 15 0 47 0"

/-- The category `Modifier_Letter`. -/
def modifierLetter : CharSet := .ofTable
  "688 17 4 11 14 4 7 0 1 0 133 0 5 0 478 0 230 0 164 1 269 1 4 0 31 0 9 0 3 0 160 0 167 0 1236
  0 127 0 565 0 1754 0 107 0 611 0 464 5 174 62 13 0 34 36 689 0 13 0 16 12 3039 1 241 0 191 0
  469 0 43 4 5 0 97 1 93 2 28438 0 1250 5 270 0 114 0 28 1 121 8 80 0 23 0 104 3 3 1 469 0 22
  0 137 0 108 0 21 1 103 3 9 0 21510 0 45 1 2016 5 1 41 1 8 1427 0 32 0 341 0 3859 0 19814 3
  508 2 40 1 550 12 64 1 1 0 14 1 16380 3 1 6 1 1 12337 61 201 6 941 0 531 0 587 0"

/-- The category `Other_Letter`. -/
def otherLetter : CharSet := .ofTable
  "170 0 15 0 256 0 4 3 208 1 826 26 4 3 45 31 1 9 35 1 1 98 1 0 24 1 10 2 2 0 16 0 1 29 29 88
  11 0 24 32 21 21 42 24 7 10 5 23 1 6 16 40 59 53 3 0 18 0 7 9 16 14 4 7 2 1 2 21 1 6 1 0 3 3
  3 0 16 0 13 1 1 2 14 1 10 0 8 5 4 1 2 21 1 6 1 1 1 1 1 1 31 3 1 0 19 2 16 8 1 2 1 21 1 6 1 1
  1 4 3 0 18 0 15 1 23 0 11 7 2 1 2 21 1 6 1 1 1 4 3 0 30 1 1 2 15 0 17 0 1 5 3 2 1 3 3 1 1 0
  1 1 3 1 3 2 3 11 22 0 52 7 1 2 1 22 1 15 3 0 26 2 1 1 2 1 30 0 4 7 1 2 1 22 1 9 1 4 3 0 30 2
  1 1 15 1 17 8 1 2 1 40 2 0 16 0 5 2 8 2 24 5 5 17 3 23 1 8 1 0 2 6 58 47 1 1 12 5 59 1 1 0 1
  4 1 23 1 0 1 9 1 1 9 0 2 4 23 3 32 0 63 7 1 35 27 4 115 42 20 0 16 5 4 3 3 0 3 1 7 2 4 12 12
  0 113 328 1 3 2 6 1 0 1 3 2 40 1 3 2 32 1 3 2 6 1 0 1 3 2 14 1 56 1 3 2 66 37 15 113 619 2
  16 1 25 5 74 6 7 7 17 13 18 14 17 14 12 1 2 15 51 40 0 67 34 1 52 7 4 2 33 1 0 5 69 10 30 49
  29 2 4 11 43 4 25 54 22 9 52 176 46 17 7 54 29 13 1 10 43 26 35 41 2 10 29 113 3 1 5 1 1 3 0
  1082 3 3063 55 24 22 9 6 1 6 1 6 1 6 1 6 1 6 1 6 1 6 551 0 53 0 4 85 8 0 1 89 4 0 5 42 1 93
  17 31 48 15 512 6591 64 21012 1 1142 67 39 8 267 4 15 10 1 66 0 49 69 169 0 103 0 3 6 1 2 1
  3 1 22 29 51 14 49 62 5 3 0 1 1 11 27 10 22 25 28 7 46 45 4 2 8 10 4 1 40 23 2 1 7 20 15 1 5
  3 0 3 49 1 0 3 1 2 4 2 0 1 0 24 1 3 10 7 0 14 5 2 5 2 5 9 6 1 6 145 34 29 11171 12 22 4 48
  8452 365 2 105 67 0 1 9 1 12 1 4 1 0 1 1 1 1 1 107 33 362 18 63 2 53 40 11 116 4 1 134 105 9
  1 44 2 30 3 5 2 5 2 5 2 2 35 11 1 25 1 18 1 1 1 14 2 13 34 122 389 28 3 48 47 31 13 19 1 7 6
  37 10 29 2 35 4 7 128 77 98 39 8 51 92 51 12 310 9 21 10 7 152 5 2 0 1 43 1 1 3 0 2 22 10 22
  9 30 65 18 1 1 10 21 10 25 6 25 38 55 6 1 64 0 15 3 1 2 1 28 42 28 3 28 35 7 1 27 27 53 10
  21 10 18 13 17 110 72 183 35 38 3 1 0 304 41 6 1 16 2 1 1 56 28 10 0 8 21 42 17 46 20 27 22
  12 52 57 1 2 0 13 44 32 24 26 35 29 0 2 0 8 34 3 0 12 47 14 3 21 0 1 0 35 17 1 24 19 1 63 6
  1 0 1 3 1 14 1 9 7 46 38 7 2 1 2 21 1 6 1 1 1 4 3 0 18 0 12 4 30 9 1 0 2 0 1 37 1 0 25 0 1 0
  44 52 18 3 20 2 30 47 20 1 1 0 184 46 41 3 36 47 20 0 59 42 13 0 71 26 37 6 185 43 211 7 2 0
  2 7 1 1 1 23 15 0 1 0 94 7 2 38 16 0 1 0 28 0 10 39 7 0 21 0 11 45 19 0 18 72 199 32 31 8 1
  36 17 0 49 29 112 6 1 1 1 37 21 0 25 5 1 1 1 31 14 0 23 40 1 1 260 18 15 0 1 12 1 33 124 0
  79 921 230 195 2636 96 15 1071 17 5 25 3994 5 582 6841 29 1762 568 7 30 17 78 17 29 18 47 51
  20 5 18 435 39 405 74 5 0 175 7381 41 31 97 114 8717 290 15 0 29 2 2 0 14 3 8 395 2308 106 5
  12 3 8 7 9 8816 0 501 44 33 0 321 29 18 43 484 26 229 29 2 0 207 30 1 2 1 1 1 6 2 4 9 0 225
  6 1 3 1 1 1 14 1 196 1339 3 1 26 1 1 1 0 2 0 1 9 1 3 1 0 1 0 6 0 4 0 1 0 1 0 1 2 1 1 1 0 2 0
  1 0 1 0 1 0 1 0 1 1 1 0 2 3 1 6 1 3 1 3 1 0 1 9 1 16 5 2 1 4 1 16 4420 42719 32 4381 2 5773
  2 7472 15 621 2466 541 1506 4938 5 8489"

/-- The category `Nonspacing_Mark`. -/
def nonspacingMark : CharSet := .ofTable
  "768 111 275 4 265 44 1 0 1 1 1 1 1 0 72 10 48 20 16 0 101 6 2 5 2 1 1 3 35 0 30 26 91 10 58
  8 9 0 24 3 1 8 1 2 1 4 43 2 59 8 42 23 1 31 55 0 1 0 4 7 4 0 3 6 10 1 29 0 58 0 4 3 8 0 20 1
  26 0 2 1 57 0 4 1 4 1 2 2 3 0 30 1 3 0 11 1 57 0 4 4 1 1 4 0 20 1 22 5 1 0 58 0 2 0 1 3 8 0
  7 1 11 1 30 0 61 0 12 0 50 0 3 0 55 0 1 2 5 2 1 3 7 1 11 1 29 0 58 0 2 0 6 0 5 1 20 1 28 1
  57 1 4 3 8 0 20 1 29 0 72 0 7 2 1 0 90 0 2 6 12 7 98 0 2 8 11 6 73 1 27 0 1 0 1 0 55 13 1 4
  1 1 5 10 1 35 9 0 102 3 1 5 1 1 2 1 25 1 4 2 16 3 13 0 2 1 6 0 15 0 703 2 946 2 29 1 30 1 30
  1 64 1 1 6 8 0 2 10 9 0 45 2 1 0 117 1 34 0 118 2 4 1 9 0 6 2 219 1 2 0 58 0 1 6 1 0 1 0 2 7
  6 9 2 0 48 13 1 30 2 11 20 3 48 0 1 4 1 0 5 0 40 8 12 1 32 3 2 1 1 2 56 0 1 1 3 0 1 2 58 7 2
  1 152 2 1 12 1 6 4 0 6 0 3 1 198 63 720 12 4 0 3 11 3070 2 141 0 96 31 554 3 107 1 30164 0 4
  9 32 1 80 1 272 0 3 0 4 0 25 1 5 0 151 1 26 17 13 0 38 7 25 10 46 2 48 0 2 3 2 1 39 0 67 5 2
  1 2 1 12 0 8 0 47 0 51 0 1 2 2 1 5 1 1 0 42 1 8 0 238 0 2 0 4 0 20272 0 737 15 16 15 973 0
  226 0 149 4 1670 2 1 1 5 3 40 2 4 0 165 1 573 3 65 4 317 1 77 5 70 10 49 3 123 0 54 14 41 0
  2 1 10 2 49 3 2 1 7 0 61 2 36 4 1 7 62 0 12 1 52 8 10 3 2 0 95 2 2 0 1 1 6 0 2 0 157 0 3 7
  21 1 57 1 3 0 37 6 3 4 70 5 13 0 1 0 1 0 14 1 85 7 2 2 1 0 23 0 84 5 1 0 4 1 1 1 238 3 6 1 1
  1 27 1 85 7 2 0 1 1 106 0 1 0 2 5 1 0 101 0 1 0 2 3 1 4 259 8 1 1 256 1 1 0 4 0 144 3 2 1 4
  0 32 9 40 5 2 3 8 0 9 5 2 2 46 12 1 1 198 0 1 2 1 0 201 6 1 5 1 0 82 21 2 6 1 1 1 1 122 5 3
  0 1 1 1 6 1 0 72 1 3 0 1 0 347 1 11 1 52 4 5 0 1 0 23 0 5349 0 6 14 11464 11 3 2 2496 4 59 6
  1048 0 63 3 81 0 19640 1 4705 45 2 22 544 2 17 7 2 6 30 3 148 2 1979 54 4 49 8 0 14 0 22 4 1
  14 1360 6 1 16 2 6 1 1 1 4 100 0 160 6 375 0 61 3 508 3 254 1 243 0 2 0 7 1 5 0 474 6 109 6
  792501 239"

/-- The category `Spacing_Mark`. -/
def spacingMark : CharSet := .ofTable
  "2307 0 55 0 2 2 8 3 1 1 50 1 58 2 6 1 2 1 10 0 43 0 58 2 66 0 58 2 8 0 1 1 53 1 58 0 1 0 6 1
  2 1 10 0 102 1 1 1 3 2 1 2 10 0 41 2 61 3 61 1 58 0 1 4 2 1 1 1 9 1 28 0 14 1 58 2 5 2 1 2
  10 0 42 1 75 2 6 7 18 1 330 1 63 0 171 1 4 0 6 0 2 1 25 1 10 2 2 6 21 1 2 5 2 0 10 2 1656 0
  30 0 129 0 7 7 1 1 346 3 2 2 4 1 1 5 224 1 58 0 1 0 9 0 1 1 8 5 145 0 48 0 5 0 1 4 1 1 61 0
  30 0 4 1 2 0 60 0 2 2 1 0 3 1 48 7 8 1 171 0 21 0 4918 1 30707 1 2 0 88 1 50 15 142 1 47 0
  48 1 4 1 2 2 110 1 2 1 24 0 45 0 1 0 109 0 2 1 5 0 237 1 1 1 1 1 1 0 25619 0 1 0 127 0 45 2
  4 1 115 0 24 1 59 0 48 2 9 1 13 0 93 2 3 1 1 0 170 2 31 1 58 1 1 3 2 1 2 2 9 0 10 1 84 2 7 0
  2 0 1 3 1 1 1 0 101 2 8 1 3 0 106 2 6 0 1 3 2 0 237 2 6 3 2 0 113 2 8 1 1 0 109 0 1 1 6 0
  103 0 1 1 4 0 261 2 9 0 247 5 1 1 4 0 2 0 1 0 142 2 8 3 4 0 84 0 29 1 62 0 201 0 3 0 1 0 199
  0 14 0 106 0 7 0 2 0 213 4 4 1 1 0 350 1 12 0 48 1 8 1 1 0 16872 2 3620 54 104 1 24947 1 6 5"

/-- The category `Enclosing_Mark`. -/
def enclosingMark : CharSet := .ofTable
  "1160 1 5684 0 1566 3 1 2 34187 2"

/-- The category `Decimal_Number`. -/
def decimalNumber : CharSet := .ofTable
  "48 9 1574 9 134 9 198 9 412 9 118 9 118 9 118 9 118 9 118 9 118 9 118 9 118 9 118 9 96 9 118
  9 70 9 278 9 70 9 1862 9 38 9 300 9 128 9 166 9 6 9 182 9 86 9 134 9 6 9 35270 9 678 9 38 9
  198 9 22 9 86 9 406 9 21270 9 1414 9 2182 9 6 9 796 9 128 9 60 9 144 9 278 9 342 9 118 9 374
  9 102 9 6 19 76 9 422 9 102 9 662 9 86 9 246 9 70 9 54 9 358 9 16854 9 2342 9 86 9 134 9 534
  9 24438 9 2772 49 2368 9 422 9 502 9 247 9 853 9 4758 9"

/-- The category `Letter_Number`. -/
def letterNumber : CharSet := .ofTable
  "5870 2 2671 34 2 3 3710 0 25 8 14 2 30379 9 23120 52 460 0 8 0 134 4 8234 110 19333 2"

/-- The category `Other_Number`. -/
def otherNumber : CharSet := .ofTable
  "178 1 5 0 2 2 2357 5 376 5 120 2 133 6 217 6 17 8 433 9 1077 19 1139 9 480 0 1685 0 3 5 6 9
  198 15 41 0 726 59 78 21 630 29 1385 0 1172 3 138 9 30 7 1 14 32 9 39 14 30064 5 22737 44 65
  3 17 1 341 26 36 3 1332 7 25 6 39 8 75 4 22 5 160 1 2 15 2 45 64 8 52 1 30 2 75 4 104 7 24 7
  41 6 330 5 352 30 158 9 42 3 112 6 134 19 379 19 1349 1 430 8 871 18 851 20 19334 6 798 22
  25641 19 12 19 108 24 5454 8 929 58 1 2 1 3 76 44 1 14 962 12"

/-- The category `Connector_Punctuation`. -/
def connectorPunctuation : CharSet := .ofTable
  "95 0 8159 1 19 0 56798 1 24 2 239 0"

/-- The category `Dash_Punctuation`. -/
def dashPunctuation : CharSet := .ofTable
  "45 0 1372 0 51 0 3649 0 1029 0 2057 5 3585 0 2 0 31 1 4 0 28 0 446 0 19 0 111 0 52624 1 37 0
  10 0 169 0 3680 0 318 0"

/-- The category `Open_Punctuation`. -/
def openPunctuation : CharSet := .ofTable
  "40 0 50 0 31 0 3774 0 1 0 1886 0 2430 0 3 0 38 0 55 0 15 0 634 0 1 0 30 0 1086 0 1 0 1 0 1 0
  1 0 1 0 1 0 80 0 32 0 1 0 1 0 1 0 1 0 404 0 1 0 1 0 1 0 1 0 1 0 1 0 1 0 1 0 1 0 1 0 64 0 1 0
  33 0 1061 0 1 0 1 0 1 0 25 0 18 0 1 0 1 0 1 0 428 0 1 0 1 0 1 0 1 0 3 0 1 0 1 0 1 0 2 0
  52513 0 215 0 29 0 1 0 1 0 1 0 1 0 1 0 1 0 1 0 3 0 17 0 1 0 1 0 170 0 50 0 31 0 3 0 2 0"

/-- The category `Close_Punctuation`. -/
def closePunctuation : CharSet := .ofTable
  "41 0 51 0 31 0 3773 0 1 0 1886 0 2473 0 55 0 15 0 634 0 1 0 30 0 1086 0 1 0 1 0 1 0 1 0 1 0
  1 0 80 0 32 0 1 0 1 0 1 0 1 0 404 0 1 0 1 0 1 0 1 0 1 0 1 0 1 0 1 0 1 0 1 0 64 0 1 0 33 0
  1061 0 1 0 1 0 1 0 44 0 1 0 1 0 1 0 428 0 1 0 1 0 1 0 1 0 3 0 1 0 1 0 1 0 2 1 52510 0 217 0
  29 0 1 0 1 0 1 0 1 0 1 0 1 0 1 0 3 0 17 0 1 0 1 0 170 0 51 0 31 0 2 0 2 0"

/-- The category `Initial_Punctuation`. -/
def initialPunctuation : CharSet := .ofTable
  "171 0 8044 0 2 1 2 0 25 0 3528 0 1 0 4 0 2 0 15 0 3 0"

/-- The category `Final_Punctuation`. -/
def finalPunctuation : CharSet := .ofTable
  "187 0 8029 0 3 0 28 0 3528 0 1 0 4 0 2 0 15 0 3 0"

/-- The category `Other_Punctuation`. -/
def otherPunctuation : CharSet := .ofTable
  "33 2 1 2 2 0 1 0 1 1 10 1 3 1 27 0 68 0 5 0 14 1 7 0 702 0 8 0 466 5 41 0 54 0 2 0 2 0 44 1
  20 1 1 1 13 0 1 2 74 3 102 0 43 13 233 2 54 14 31 0 261 1 10 0 140 0 120 0 121 0 390 0 12 0
  367 0 90 0 10 1 168 14 1 0 112 0 74 4 4 1 111 5 171 0 612 8 773 0 124 2 71 1 157 2 1 2 37 5
  1 3 313 1 216 1 128 6 1 5 160 1 10 6 28 2 124 3 59 4 62 1 64 7 11 0 834 1 8 7 8 8 2 3 2 2 3
  10 1 0 1 9 3226 3 1 1 112 0 143 1 4 2 2 0 2 8 1 1 1 0 2 1 10 4 1 9 2 3 1 0 1 12 2 2 428 2 57
  0 189 0 29698 1 269 2 99 0 10 0 115 5 380 3 86 1 40 2 1 0 49 1 47 0 97 12 16 1 124 3 126 1
  16 1 249 0 21028 6 2 0 22 0 20 1 2 3 3 2 1 3 7 2 6 0 1 1 149 2 1 2 2 0 1 0 1 1 10 1 3 1 27 0
  36 0 2 1 410 2 668 0 48 0 414 0 743 0 199 0 31 0 272 8 38 0 112 6 66 6 89 3 819 0 132 4 44 3
  189 6 109 1 1 3 126 3 48 1 79 3 4 0 13 0 1 2 88 5 107 0 298 1 1 1 114 4 10 1 1 0 104 0 250
  22 105 2 28 12 76 0 130 2 252 0 264 2 155 0 92 7 83 2 1 4 93 9 215 0 95 4 42 1 645 1 74 12
  175 0 1136 4 2940 1 14971 1 133 0 65 4 8 0 552 2 295 3 327 0 19644 0 7655 4 2931 0 862 1"

/-- The category `Math_Symbol`. -/
def mathSymbol : CharSet := .ofTable
  "43 0 16 2 61 0 1 0 45 0 4 0 37 0 31 0 766 0 527 2 6715 0 13 0 39 2 13 2 139 0 39 4 6 0 68 4
  5 1 4 0 2 0 2 0 7 0 31 1 2 0 1 0 31 267 32 1 90 0 30 24 40 5 469 0 9 0 54 7 111 0 336 4 2 30
  10 15 256 130 22 62 4 31 2 257 48 20 2 5 53212 0 824 0 1 2 164 0 16 2 61 0 1 0 131 0 6 3
  3489 1 49504 0 2000 0 25 0 31 0 25 0 31 0 25 0 31 0 25 0 31 0 25 0 5932 1 2526 8"

/-- The category `Currency_Symbol`. -/
def currencySymbol : CharSet := .ofTable
  "36 0 125 3 1257 0 123 0 498 1 498 1 7 0 245 0 263 0 581 0 2459 0 2244 33 34678 0 21955 0 108
  0 154 0 219 1 3 1 8182 3 49950 0 2480 0"

/-- The category `Modifier_Symbol`. -/
def modifierSymbol : CharSet := .ofTable
  "94 0 1 0 71 0 6 0 4 0 3 0 521 3 12 13 5 6 1 0 1 16 117 0 14 1 1282 0 5940 0 1 2 11 2 13 2 13
  2 13 1 4252 1 30307 22 9 1 103 1 976 0 14 1 20550 16 891 0 1 0 162 0 62487 4"

/-- The category `Other_Symbol`. -/
def otherSymbol : CharSet := .ofTable
  "166 0 2 0 4 0 1 0 977 0 266 1 127 1 206 0 10 0 19 1 247 0 515 0 373 0 130 5 1 0 132 0 207 0
  41 0 391 2 15 0 1 2 2 5 20 0 1 0 1 0 133 7 1 5 1 1 5 3 197 1 752 9 723 0 722 0 157 33 353 9
  9 8 1411 1 1 3 1 1 10 0 1 1 6 5 1 0 1 0 1 0 4 0 11 1 14 0 1 1 1 0 58 1 9 4 2 3 1 1 1 1 1 6 1
  30 2 1 1 0 1 30 268 7 4 19 2 6 2 80 1 29 25 39 6 71 22 10 81 77 22 182 1 8 1 53 8 110 1 247
  44 43 64 255 512 47 21 1 6 38 2 137 229 5 357 1 46 25 1 88 12 213 26 15 4 0 13 1 12 0 21 1 6
  1 336 1 4 9 32 37 9 0 16 30 11 29 8 0 15 31 10 38 15 319 6592 63 22160 54 865 3 10 1 1 0 573
  2 20809 15 365 15 64 1 54 7 45 2 484 0 3 0 4 1 13 1 313 8 57 16 2 2 1 12 3 0 47 44 1658 1
  591 0 1032 7 2150 0 2197 7 4 16 19274 3 5 0 20822 0 3939 239 10 2 3 435 6 22 15 15 96 115 60
  245 10 38 2 59 5 2 22 1 7 29 4 60 21 65 3 0 186 86 1193 511 55 3 50 7 1 13 1 1 1736 0 2908 0
  129 0 721 43 4 99 12 14 2 14 1 14 1 36 23 160 56 28 13 43 4 8 7 1 14 5 154 250 5 728 3 16 3
  12 3 217 6 11 4 0 15 11 4 55 8 9 6 39 8 29 2 11 4 1 62 343 8 13 2 12 3 10 3 56 1 0 4 15 2 11
  4 9 7 146 1 91 10 0"

/-- The category `Space_Separator`. -/
def spaceSeparator : CharSet := .ofTable
  "32 0 127 0 5599 0 2431 10 36 0 47 0 4000 0"

/-- The category `Line_Separator`. -/
def lineSeparator : CharSet := .ofTable
  "8232 0"

/-- The category `Paragraph_Separator`. -/
def paragraphSeparator : CharSet := .ofTable
  "8233 0"

/-- The category `Control`. -/
def control : CharSet := .ofTable
  "0 31 95 32"

/-- The category `Format`. -/
def format : CharSet := .ofTable
  "173 0 1362 5 22 0 192 0 49 0 384 1 80 0 3883 0 2044 4 26 4 49 4 1 9 56975 0 249 2 4289 0 15
  0 9058 15 34912 3 5327 7 798342 0 30 95"

/-- The category `Surrogate`. -/
def surrogate : CharSet := .ofTable
  "55296 2047"

/-- The category `Private_Use`. -/
def privateUse : CharSet := .ofTable
  "57344 6399 919296 65533 2 65533"

/-- Code points with a category of their own. -/
def assigned : CharSet :=
  .ofRanges ([uppercaseLetter, lowercaseLetter, titlecaseLetter, modifierLetter, otherLetter,
    nonspacingMark, spacingMark, enclosingMark, decimalNumber, letterNumber, otherNumber,
    connectorPunctuation, dashPunctuation, openPunctuation, closePunctuation,
    initialPunctuation, finalPunctuation, otherPunctuation, mathSymbol, currencySymbol,
    modifierSymbol, otherSymbol, spaceSeparator, lineSeparator, paragraphSeparator, control,
    format, surrogate, privateUse].flatMap CharSet.ranges)

/-- Code points without one. -/
def unassigned : CharSet := assigned.compl

/-- The coarse category `Letter`. -/
def letter : CharSet :=
  .ofRanges ([uppercaseLetter, lowercaseLetter, titlecaseLetter, modifierLetter, otherLetter].flatMap
    CharSet.ranges)

/-- The coarse category `Cased_Letter`. -/
def casedLetter : CharSet :=
  .ofRanges ([uppercaseLetter, lowercaseLetter, titlecaseLetter].flatMap
    CharSet.ranges)

/-- The coarse category `Mark`. -/
def mark : CharSet :=
  .ofRanges ([nonspacingMark, spacingMark, enclosingMark].flatMap
    CharSet.ranges)

/-- The coarse category `Number`. -/
def number : CharSet :=
  .ofRanges ([decimalNumber, letterNumber, otherNumber].flatMap
    CharSet.ranges)

/-- The coarse category `Punctuation`. -/
def punctuation : CharSet :=
  .ofRanges ([connectorPunctuation, dashPunctuation, openPunctuation, closePunctuation, initialPunctuation, finalPunctuation, otherPunctuation].flatMap
    CharSet.ranges)

/-- The coarse category `Symbol`. -/
def symbol : CharSet :=
  .ofRanges ([mathSymbol, currencySymbol, modifierSymbol, otherSymbol].flatMap
    CharSet.ranges)

/-- The coarse category `Separator`. -/
def separator : CharSet :=
  .ofRanges ([spaceSeparator, lineSeparator, paragraphSeparator].flatMap
    CharSet.ranges)

/-- The coarse category `Other`, which holds the unassigned code points too. -/
def other : CharSet :=
  .ofRanges ([control, format, surrogate, privateUse, unassigned].flatMap CharSet.ranges)

/-- Categories by their folded names. -/
def categories : List (List String × CharSet) :=
  [ (["lu", "uppercaseletter"], uppercaseLetter),
    (["ll", "lowercaseletter"], lowercaseLetter),
    (["lt", "titlecaseletter"], titlecaseLetter),
    (["lm", "modifierletter"], modifierLetter),
    (["lo", "otherletter"], otherLetter),
    (["mn", "nonspacingmark"], nonspacingMark),
    (["mc", "spacingmark"], spacingMark),
    (["me", "enclosingmark"], enclosingMark),
    (["nd", "decimalnumber", "digit"], decimalNumber),
    (["nl", "letternumber"], letterNumber),
    (["no", "othernumber"], otherNumber),
    (["pc", "connectorpunctuation"], connectorPunctuation),
    (["pd", "dashpunctuation"], dashPunctuation),
    (["ps", "openpunctuation"], openPunctuation),
    (["pe", "closepunctuation"], closePunctuation),
    (["pi", "initialpunctuation"], initialPunctuation),
    (["pf", "finalpunctuation"], finalPunctuation),
    (["po", "otherpunctuation"], otherPunctuation),
    (["sm", "mathsymbol"], mathSymbol),
    (["sc", "currencysymbol"], currencySymbol),
    (["sk", "modifiersymbol"], modifierSymbol),
    (["so", "othersymbol"], otherSymbol),
    (["zs", "spaceseparator"], spaceSeparator),
    (["zl", "lineseparator"], lineSeparator),
    (["zp", "paragraphseparator"], paragraphSeparator),
    (["cc", "control", "cntrl"], control),
    (["cf", "format"], format),
    (["cs", "surrogate"], surrogate),
    (["co", "privateuse"], privateUse),
    (["cn", "unassigned"], unassigned),
    (["l", "letter"], letter),
    (["lc", "casedletter"], casedLetter),
    (["m", "mark", "combiningmark"], mark),
    (["n", "number"], number),
    (["p", "punctuation", "punct"], punctuation),
    (["s", "symbol"], symbol),
    (["z", "separator"], separator),
    (["c", "other"], other) ]

end DocumentSchema.Unicode
