/-!
Where texts may be broken, after Unicode 16: the values of code points by which the edges of visible
characters, of words and of sentences are found.
-/

namespace ProtoRules.Text

/-- Values for visible characters, each with the number of code points in a row that have it;
numbers alone stand for code points without a value. The syllables of Hangul are left out. -/
def graphemeBreakText : String :=
  "cn10 lf1 cn2 cr1 cn18 95 cn33 13 cn1 594 ex112 275 ex7 263 ex45 1 ex1 1 ex2 1 ex2 1 ex1 56 pp6
  10 ex11 1 cn1 46 ex21 16 ex1 101 ex7 pp1 1 ex6 2 ex2 1 ex4 33 pp1 1 ex1 30 ex27 91 ex11 58 ex9 9
  ex1 24 ex4 1 ex9 1 ex3 1 ex5 43 ex3 52 pp2 5 ex9 42 ex24 pp1 ex32 sm1 54 ex1 sm1 ex1 1 sm3 ex8
  sm4 ex1 sm2 1 ex7 10 ex2 29 ex1 sm2 56 ex1 1 ex1 sm2 ex4 2 sm2 2 sm2 ex1 9 ex1 10 ex2 26 ex1 2
  ex2 sm1 56 ex1 1 sm3 ex2 4 ex2 2 ex3 3 ex1 30 ex2 3 ex1 11 ex2 sm1 56 ex1 1 sm3 ex5 1 ex2 sm1 1
  sm2 ex1 20 ex2 22 ex6 1 ex1 sm2 56 ex1 1 ex2 sm1 ex4 2 sm2 2 sm2 ex1 7 ex3 10 ex2 30 ex1 59 ex1
  sm1 ex1 sm2 3 sm3 1 sm3 ex1 9 ex1 40 ex1 sm3 ex1 55 ex1 1 ex3 sm4 1 ex3 1 ex4 7 ex2 11 ex2 29
  ex1 sm2 56 ex1 1 sm1 ex2 sm1 ex1 sm2 1 ex3 1 ex4 7 ex2 11 ex2 15 sm1 12 ex2 sm2 55 ex2 1 ex1 sm2
  ex4 1 sm3 1 sm3 ex1 pp1 8 ex1 10 ex2 29 ex1 sm2 70 ex1 4 ex1 sm2 ex3 1 ex1 1 sm7 ex1 18 sm2 61
  ex1 1 sm1 ex7 12 ex8 98 ex1 1 sm1 ex9 11 ex7 73 ex2 27 ex1 1 ex1 1 ex1 4 sm2 49 ex14 sm1 ex5 1
  ex2 5 ex11 1 ex36 9 ex1 102 ex4 sm1 ex6 1 ex2 sm2 ex2 23 sm2 ex2 4 ex3 16 ex4 13 ex1 1 sm1 ex2 6
  ex1 15 ex1 98 l96 v72 t88 349 ex3 946 ex4 28 ex3 29 ex2 30 ex2 64 ex2 sm1 ex7 sm8 ex1 sm2 ex11 9
  ex1 45 ex3 cn1 ex1 117 ex2 34 ex1 118 ex3 sm4 ex2 sm3 4 sm2 ex1 sm6 ex3 219 ex2 sm2 ex1 57 sm1
  ex1 sm1 ex7 1 ex1 1 ex1 2 ex8 sm6 ex10 2 ex1 48 ex31 49 ex4 sm1 47 ex10 sm4 ex3 38 ex9 12 ex2
  sm1 30 sm1 ex4 sm2 ex6 56 ex1 sm1 ex2 sm3 ex1 sm1 ex5 48 sm8 ex8 sm2 ex2 152 ex3 1 ex13 sm1 ex7
  4 ex1 6 ex1 2 sm1 ex2 198 ex64 523 cn1 ex1 zwj1 cn2 24 cn7 49 cn16 96 ex33 3070 ex3 141 ex1 96
  ex32 554 ex6 105 ex2 30164 ex4 1 ex10 32 ex2 80 ex2 272 ex1 3 ex1 4 ex1 23 sm2 ex2 sm1 4 ex1 83
  sm2 50 sm16 ex2 26 ex18 13 ex1 38 ex8 25 ex11 sm1 ex1 12 l29 3 ex3 sm1 47 ex1 sm2 ex4 sm2 ex2
  sm2 ex1 36 ex1 67 ex6 sm2 ex2 sm2 ex2 12 ex1 8 ex1 sm1 46 ex1 51 ex1 1 ex3 2 ex2 5 ex2 1 ex1 41
  sm1 ex2 sm2 5 sm1 ex1 236 sm2 ex1 sm2 ex1 sm2 1 sm1 ex1 11202 v23 4 t49 8994 ex1 737 ex16 16
  ex16 207 cn1 158 ex2 80 cn12 513 ex1 226 ex1 149 ex5 1670 ex3 1 ex2 5 ex4 40 ex3 4 ex1 165 ex2
  573 ex4 65 ex5 317 ex2 79 ex4 70 ex11 49 ex4 122 sm1 ex1 sm1 53 ex15 41 ex1 2 ex2 10 ex3 sm1 45
  sm3 ex4 sm2 ex2 2 pp1 4 ex1 10 pp1 50 ex3 36 ex5 sm1 ex8 16 sm2 44 ex1 12 ex2 sm1 48 sm3 ex9 sm1
  ex1 1 pp2 5 ex4 1 sm1 ex1 92 sm3 ex3 sm2 ex4 6 ex1 2 ex1 157 ex1 sm3 ex8 21 ex2 sm2 55 ex2 1 ex1
  sm1 ex1 sm4 2 sm2 2 sm2 ex1 9 ex1 10 sm2 2 ex7 3 ex5 67 ex1 sm2 ex6 1 ex1 2 ex1 1 ex3 sm1 1 sm2
  ex3 pp1 ex1 14 ex2 82 sm3 ex8 sm2 ex3 sm1 ex1 23 ex1 81 ex1 sm2 ex6 sm1 ex1 sm2 ex1 sm1 ex2 sm1
  ex2 235 ex1 sm2 ex4 2 sm4 ex2 sm1 ex2 27 ex2 82 sm3 ex8 sm2 ex1 sm1 ex2 106 ex1 sm1 ex1 sm2 ex8
  101 ex3 2 ex4 sm1 ex5 256 sm3 ex9 sm1 ex2 245 ex1 sm5 1 sm2 2 ex4 pp1 sm1 pp1 sm1 ex1 141 sm3
  ex4 2 ex2 sm4 ex1 3 sm1 28 ex10 40 ex6 sm1 pp1 ex4 8 ex1 9 ex6 sm2 ex3 40 pp6 ex13 sm1 ex2 405
  sm1 ex7 1 ex6 sm1 ex1 82 ex22 1 sm1 ex7 sm1 ex2 sm1 ex2 122 ex6 3 ex1 1 ex2 1 ex7 pp1 ex1 66 sm5
  1 ex2 1 sm2 ex1 sm1 ex1 347 ex2 sm2 9 ex2 pp1 sm1 48 sm2 ex5 3 sm2 ex3 23 ex1 5333 cn16 ex1 6
  ex15 11464 ex12 sm3 ex3 2496 ex5 59 ex7 1048 ex1 1 sm55 7 ex4 81 ex1 11 ex2 19627 ex2 1 cn4 4700
  ex46 2 ex23 542 ex5 3 ex6 cn8 ex8 2 ex7 30 ex4 148 ex3 1979 ex55 4 ex50 8 ex1 14 ex1 22 ex5 1
  ex15 1360 ex7 1 ex17 2 ex7 1 ex2 1 ex5 100 ex1 160 ex7 375 ex1 61 ex4 508 ex4 254 ex2 736 ex7
  109 ex7 2203 ri26 507 ex5 789504 cn32 ex96 cn128 ex240 cn3600"

def wordBreakText : String :=
  "10 lf1 nl2 cr1 18 wsegspace1 1 dq1 4 sq1 4 mn1 1 mb1 1 nu10 ml1 mn1 5 le26 4 ex1 1 le26 10 nl1
  36 le1 2 fo1 7 le1 1 ml1 2 le1 5 le23 1 le31 1 le480 6 le34 extend112 le5 1 le2 2 le4 mn1 le1 6
  le1 ml1 le3 1 le1 1 le20 1 le83 1 le139 1 extend7 le166 1 le38 2 le4 1 le1 ml1 le41 mn1 le1 6
  extend45 1 extend1 1 extend2 1 extend2 1 extend1 8 hl27 4 hl4 le1 ml1 11 fo6 6 mn2 2 extend11 1
  fo1 3 le43 extend21 nu10 1 nu1 mn1 1 le2 extend1 le99 1 le1 extend7 fo1 1 extend6 le2 extend2 1
  extend4 le2 nu10 le3 2 le1 15 fo1 le1 extend1 le30 extend27 2 le89 extend11 le1 14 nu10 le33
  extend9 le2 2 mn1 1 le1 2 extend1 2 le22 extend4 le1 extend9 le1 extend3 le1 extend5 18 le25
  extend3 4 le11 5 le24 1 le6 1 fo2 5 extend9 le42 extend24 fo1 extend33 le54 extend3 le1 extend18
  le1 extend7 le10 extend2 2 nu10 1 le16 extend3 1 le8 2 le2 2 le22 1 le7 1 le1 3 le4 2 extend1
  le1 extend7 2 extend2 2 extend3 le1 8 extend1 4 le2 1 le3 extend2 2 nu10 le2 10 le1 1 extend1 2
  extend3 1 le6 4 le2 2 le22 1 le7 1 le2 1 le2 1 le2 2 extend1 1 extend5 4 extend2 2 extend3 3
  extend1 7 le4 1 le1 7 nu10 extend2 le3 extend1 11 extend3 1 le9 1 le3 1 le22 1 le7 1 le2 1 le5 2
  extend1 le1 extend8 1 extend3 1 extend3 2 le1 15 le2 extend2 2 nu10 9 le1 extend6 1 extend3 1
  le8 2 le2 2 le22 1 le7 1 le2 1 le5 2 extend1 le1 extend7 2 extend2 2 extend3 7 extend3 4 le2 1
  le3 extend2 2 nu10 1 le1 16 extend1 le1 1 le6 3 le3 1 le4 3 le2 1 le1 1 le2 3 le2 3 le3 3 le12 4
  extend5 3 extend3 1 extend4 2 le1 6 extend1 14 nu10 16 extend5 le8 1 le3 1 le23 1 le16 2 extend1
  le1 extend7 1 extend3 1 extend4 7 extend2 1 le3 2 le1 2 le2 extend2 2 nu10 16 le1 extend3 1 le8
  1 le3 1 le23 1 le10 1 le5 2 extend1 le1 extend7 1 extend3 1 extend4 7 extend2 6 le2 1 le2
  extend2 2 nu10 1 le2 extend1 12 extend4 le9 1 le3 1 le41 extend2 le1 extend7 1 extend3 1 extend4
  le1 5 le3 extend1 7 le3 extend2 2 nu10 10 le6 1 extend3 1 le18 3 le24 1 le9 1 le1 2 le7 3
  extend1 4 extend6 1 extend1 1 extend8 6 nu10 2 extend2 61 extend1 2 extend7 12 extend8 1 nu10 87
  extend1 2 extend9 11 extend7 1 nu10 38 le1 23 extend2 6 nu10 11 extend1 1 extend1 1 extend1 4
  extend2 le8 1 le36 4 extend20 1 extend2 le5 extend11 1 extend36 9 extend1 100 extend20 1 nu10 12
  extend4 4 extend3 1 extend3 2 extend7 3 extend4 13 extend12 1 extend1 nu10 extend4 2 le38 1 le1
  5 le1 2 le43 1 le333 1 le4 2 le7 1 le1 1 le4 2 le41 1 le4 2 le33 1 le4 2 le7 1 le1 1 le4 2 le15
  1 le57 1 le4 2 le67 2 extend3 32 le16 16 le86 2 le6 3 le620 2 le17 wsegspace1 le26 5 le75 3 le11
  7 le18 extend4 9 le19 extend3 11 le18 extend2 12 le13 1 le3 1 extend2 64 extend32 9 extend1 2
  nu10 33 extend3 fo1 extend1 nu10 6 le89 7 le5 extend2 le34 extend1 le1 5 le70 10 le31 1 extend12
  4 extend12 10 nu10 128 nu10 38 le23 extend5 57 extend10 1 extend29 2 extend1 nu10 6 nu10 22
  extend31 49 extend5 le47 extend17 le8 3 nu10 17 extend9 12 extend3 le30 extend13 le2 nu10 le44
  extend14 12 le36 extend20 8 nu10 3 le3 nu10 le36 2 le11 5 le43 2 le3 16 extend3 1 extend21 le4
  extend1 le6 extend1 le2 extend3 le1 5 le192 extend64 le278 2 le6 2 le38 2 le6 2 le8 1 le1 1 le1
  1 le1 1 le31 2 le53 1 le7 1 le1 3 le3 1 le7 3 le4 2 le6 4 le13 5 le3 1 le7 3 wsegspace7 1
  wsegspace3 1 extend1 zwj1 fo2 8 mb2 10 mb1 2 ml1 nl2 fo5 ex1 15 ex2 3 mn1 15 ex1 10 wsegspace1
  fo5 1 fo10 1 le1 13 le1 16 le13 51 extend33 17 le1 4 le1 2 le10 1 le1 3 le5 6 le1 1 le1 1 le1 1
  le4 1 le11 2 le4 5 le5 4 le1 17 le41 813 le52 1814 le229 6 le4 extend3 le2 12 le38 1 le1 5 le1 2
  le56 7 le1 15 extend1 le23 9 le7 1 le7 1 le7 1 le7 1 le7 1 le7 1 le7 1 le7 1 extend32 47 le1 464
  wsegspace1 4 le1 36 extend6 1 ka5 5 le2 92 extend2 ka2 3 ka91 1 ka4 5 le43 1 le94 17 le32 48
  ka16 208 ka47 1 ka88 27816 le1165 67 le46 2 le269 3 le16 nu10 le2 20 le47 extend4 1 extend10 1
  le31 extend2 le80 extend2 22 le198 2 le2 1 le1 1 le8 21 le16 extend1 le3 extend1 le4 extend1
  le23 extend5 4 extend1 19 le52 12 extend2 le50 extend18 10 nu10 6 extend18 le6 3 le1 1 le2
  extend1 nu10 le28 extend8 2 le23 extend13 12 le29 3 extend4 le47 extend14 14 le1 nu10 11 extend1
  10 nu10 6 le41 extend14 9 le3 extend1 le8 extend2 2 nu10 33 extend3 50 extend1 1 extend3 2
  extend2 5 extend2 1 extend1 30 le11 extend5 2 le3 extend2 10 le6 2 le6 2 le6 9 le7 1 le7 1 le58
  6 le115 extend8 1 extend2 2 nu10 6 le11172 12 le23 4 le49 8964 le7 12 le5 5 hl1 extend1 hl10 1
  hl13 1 hl5 1 hl1 1 hl2 1 hl2 1 hl10 le98 33 le363 18 le64 2 le54 40 le12 4 extend16 mn1 2 ml1
  mn1 11 extend16 3 ex2 24 ex3 mn1 1 mb1 1 mn1 ml1 26 le5 1 le135 2 fo1 7 mb1 4 mn1 1 mb1 1 nu10
  ml1 mn1 5 le26 4 ex1 1 le26 11 ka56 extend2 le31 3 le6 2 le6 2 le6 2 le3 28 fo3 4 le12 1 le26 1
  le19 1 le2 1 le15 2 le14 34 le123 69 le53 136 extend1 130 le29 3 le49 15 extend1 31 le32 13 le30
  5 le38 extend5 5 le30 2 le36 4 le8 1 le5 42 le158 2 nu10 6 le36 4 le36 4 le40 8 le52 12 le11 1
  le15 1 le7 1 le2 1 le11 1 le15 1 le7 1 le2 3 le52 12 le311 9 le22 10 le8 24 le6 1 le42 1 le9 69
  le6 2 le1 1 le44 1 le2 3 le1 2 le23 10 le23 9 le31 65 le19 1 le2 10 le22 10 le26 70 le56 6 le2
  64 le1 extend3 1 extend2 5 extend4 le4 1 le3 1 le29 2 extend3 4 extend1 32 le29 3 le29 35 le8 1
  le28 extend2 25 le54 10 le22 10 le19 13 le18 110 le73 55 le51 13 le51 13 le36 extend4 8 nu10 6
  nu10 le28 3 extend5 1 le23 250 le42 1 extend2 3 le2 16 le3 55 extend4 le29 10 le1 8 le22
  extend11 31 le18 extend4 42 le21 27 le23 9 extend3 le53 extend15 31 nu10 extend1 le2 extend2 le1
  9 extend4 le45 extend11 2 fo1 4 extend1 10 fo1 2 le25 7 nu10 6 extend3 le36 extend14 1 nu10 4
  le1 extend2 le1 8 le35 extend1 2 le1 9 extend3 le48 extend14 le4 4 extend4 1 extend2 nu10 le1 1
  le1 35 le18 1 le25 extend12 6 extend1 le2 extend1 62 le7 1 le1 1 le4 1 le15 1 le10 7 le47
  extend12 5 nu10 6 extend4 1 le8 2 le2 2 le22 1 le7 1 le2 1 le5 1 extend2 le1 extend7 2 extend2 2
  extend3 2 le1 6 extend1 5 le5 extend2 2 extend7 3 extend5 11 le10 1 le1 2 le1 1 le38 1 le1
  extend9 1 extend1 2 extend1 1 extend4 1 extend5 le1 extend1 le1 13 extend2 29 le53 extend18 le4
  5 nu10 4 extend1 le3 30 le48 extend20 le2 1 le1 8 nu10 166 le47 extend7 2 extend9 23 le4 extend2
  34 le48 extend17 3 le1 11 nu10 38 le43 extend13 le1 7 nu10 6 nu20 57 extend15 4 nu10 198 le44
  extend15 101 le64 nu10 21 le8 2 le1 2 le8 1 le2 1 le24 extend6 1 extend2 2 extend4 le1 extend1
  le1 extend2 12 nu10 70 le8 2 le39 extend7 2 extend7 le1 1 le1 extend1 27 le1 extend10 le40
  extend7 le1 extend4 8 extend1 8 le1 extend11 le46 extend16 3 le1 18 le73 199 le33 15 nu10 6 le9
  1 le37 extend8 1 extend8 le1 15 nu10 24 le30 2 extend22 1 extend14 73 le7 1 le2 1 le38 extend6 3
  extend1 1 extend2 1 extend7 le1 extend1 8 nu10 6 le6 1 le2 1 le32 extend5 1 extend2 1 extend5
  le1 7 nu10 310 le19 extend4 9 extend2 le1 extend1 le13 1 le34 extend7 3 extend5 13 nu10 extend1
  85 le1 79 le922 102 le111 17 le196 2636 le97 15 le1072 fo16 extend1 le6 extend15 10 le3995 5
  le583 6841 le30 extend18 nu10 1734 le569 7 le31 1 nu10 6 le79 1 nu10 6 le30 2 extend5 11 le48
  extend7 9 le4 12 nu10 9 le21 5 le19 432 le45 3 nu10 198 le64 128 le75 4 extend1 le1 extend55 7
  extend4 le13 64 le2 1 le1 extend1 11 extend2 16382 ka4 1 ka7 1 ka2 1 ka1 287 ka3 50 ka1 14 ka4
  2712 le107 5 le13 3 le9 7 le10 3 extend2 1 fo4 4172 nu10 518 extend46 2 extend23 542 extend5 3
  extend6 fo8 extend8 2 extend7 30 extend4 148 extend3 443 le85 1 le71 1 le2 2 le1 2 le2 2 le4 1
  le12 1 le1 1 le7 1 le65 1 le4 2 le8 1 le7 1 le28 1 le4 1 le5 1 le1 3 le7 1 le340 2 le25 1 le25 1
  le31 1 le25 1 le31 1 le25 1 le31 1 le25 1 le31 1 le25 1 le8 2 nu50 512 extend55 4 extend50 8
  extend1 14 extend1 22 extend5 1 extend15 1104 le31 6 le6 213 extend7 1 extend17 2 extend7 1
  extend2 1 extend5 5 le62 33 extend1 112 le45 3 extend7 le7 2 nu10 4 le1 321 le30 extend1 17 le44
  extend4 nu10 470 le28 extend4 nu10 214 le30 extend2 le1 nu10 485 le7 1 le4 1 le2 1 le15 1 le197
  11 extend7 41 le68 extend7 le1 4 nu10 1190 le4 1 le27 1 le2 1 le1 2 le1 1 le10 1 le4 1 le1 1 le1
  6 le1 4 le1 1 le1 1 le1 1 le3 1 le2 1 le1 2 le1 1 le1 1 le1 1 le1 1 le1 1 le2 1 le1 2 le4 1 le7
  1 le4 1 le4 1 le1 1 le10 1 le17 5 le3 1 le5 1 le17 628 le26 6 le26 6 le26 92 ri26 507 extend5
  2032 nu10 787463 fo1 30 extend96 128 extend240"

def sentenceBreakText : String :=
  "9 sp1 lf1 sp2 cr1 18 sp1 st1 cl1 4 cl3 2 sc2 at1 1 nu10 sc1 4 st1 1 up26 cl1 1 cl1 3 lo26 cl1 1
  cl1 7 se1 26 sp1 9 lo1 cl1 1 fo1 7 lo1 4 lo1 cl1 4 up23 1 up7 lo24 1 lo8 up1 lo1 up1 lo1 up1 lo1
  up1 lo1 up1 lo1 up1 lo1 up1 lo1 up1 lo1 up1 lo1 up1 lo1 up1 lo1 up1 lo1 up1 lo1 up1 lo1 up1 lo1
  up1 lo1 up1 lo1 up1 lo1 up1 lo1 up1 lo1 up1 lo1 up1 lo1 up1 lo1 up1 lo1 up1 lo1 up1 lo1 up1 lo1
  up1 lo2 up1 lo1 up1 lo1 up1 lo1 up1 lo1 up1 lo1 up1 lo1 up1 lo1 up1 lo2 up1 lo1 up1 lo1 up1 lo1
  up1 lo1 up1 lo1 up1 lo1 up1 lo1 up1 lo1 up1 lo1 up1 lo1 up1 lo1 up1 lo1 up1 lo1 up1 lo1 up1 lo1
  up1 lo1 up1 lo1 up1 lo1 up1 lo1 up1 lo1 up1 lo1 up1 lo1 up1 lo1 up2 lo1 up1 lo1 up1 lo3 up2 lo1
  up1 lo1 up2 lo1 up3 lo2 up4 lo1 up2 lo1 up3 lo3 up2 lo1 up2 lo1 up1 lo1 up1 lo1 up2 lo1 up1 lo2
  up1 lo1 up2 lo1 up3 lo1 up1 lo1 up2 lo2 le1 up1 lo3 le4 up2 lo1 up2 lo1 up2 lo1 up1 lo1 up1 lo1
  up1 lo1 up1 lo1 up1 lo1 up1 lo1 up1 lo1 up1 lo2 up1 lo1 up1 lo1 up1 lo1 up1 lo1 up1 lo1 up1 lo1
  up1 lo1 up1 lo1 up1 lo2 up2 lo1 up1 lo1 up3 lo1 up1 lo1 up1 lo1 up1 lo1 up1 lo1 up1 lo1 up1 lo1
  up1 lo1 up1 lo1 up1 lo1 up1 lo1 up1 lo1 up1 lo1 up1 lo1 up1 lo1 up1 lo1 up1 lo1 up1 lo1 up1 lo1
  up1 lo1 up1 lo1 up1 lo1 up1 lo1 up1 lo1 up1 lo1 up1 lo1 up1 lo1 up1 lo1 up1 lo1 up1 lo7 up2 lo1
  up2 lo2 up1 lo1 up4 lo1 up1 lo1 up1 lo1 up1 lo1 up1 lo69 le1 lo36 le7 lo2 4 le12 14 lo5 7 le1 1
  le1 17 ex112 up1 lo1 up1 lo1 le1 1 up1 lo1 2 lo4 1 up1 6 up1 1 up3 1 up1 1 up2 lo1 up17 1 up9
  lo35 up1 lo2 up3 lo3 up1 lo1 up1 lo1 up1 lo1 up1 lo1 up1 lo1 up1 lo1 up1 lo1 up1 lo1 up1 lo1 up1
  lo1 up1 lo1 up1 lo5 up1 lo1 1 up1 lo1 up2 lo2 up51 lo48 up1 lo1 up1 lo1 up1 lo1 up1 lo1 up1 lo1
  up1 lo1 up1 lo1 up1 lo1 up1 lo1 up1 lo1 up1 lo1 up1 lo1 up1 lo1 up1 lo1 up1 lo1 up1 lo1 up1 lo1
  1 ex7 up1 lo1 up1 lo1 up1 lo1 up1 lo1 up1 lo1 up1 lo1 up1 lo1 up1 lo1 up1 lo1 up1 lo1 up1 lo1
  up1 lo1 up1 lo1 up1 lo1 up1 lo1 up1 lo1 up1 lo1 up1 lo1 up1 lo1 up1 lo1 up1 lo1 up1 lo1 up1 lo1
  up1 lo1 up1 lo1 up1 lo1 up1 lo1 up2 lo1 up1 lo1 up1 lo1 up1 lo1 up1 lo1 up1 lo1 up1 lo2 up1 lo1
  up1 lo1 up1 lo1 up1 lo1 up1 lo1 up1 lo1 up1 lo1 up1 lo1 up1 lo1 up1 lo1 up1 lo1 up1 lo1 up1 lo1
  up1 lo1 up1 lo1 up1 lo1 up1 lo1 up1 lo1 up1 lo1 up1 lo1 up1 lo1 up1 lo1 up1 lo1 up1 lo1 up1 lo1
  up1 lo1 up1 lo1 up1 lo1 up1 lo1 up1 lo1 up1 lo1 up1 lo1 up1 lo1 up1 lo1 up1 lo1 up1 lo1 up1 lo1
  up1 lo1 up1 lo1 up1 lo1 up1 lo1 up1 lo1 up1 lo1 up1 lo1 up1 lo1 up1 lo1 up1 lo1 up1 lo1 1 up38 2
  le1 3 sc1 2 lo41 st1 7 ex45 1 ex1 1 ex2 1 ex2 1 ex1 8 le27 4 le5 12 fo6 6 sc2 2 ex11 1 fo1 st3
  le43 ex21 nu10 1 nu2 1 le2 ex1 le99 st1 le1 ex7 fo1 1 ex6 le2 ex2 1 ex4 le2 nu10 le3 2 le1 st3
  12 fo1 le1 ex1 le30 ex27 2 le89 ex11 le1 14 nu10 le33 ex9 le2 2 sc1 st1 le1 2 ex1 2 le22 ex4 le1
  ex9 le1 ex3 le1 ex5 9 st1 1 st1 3 st2 1 le25 ex3 4 le11 5 le24 1 le6 1 fo2 5 ex9 le42 ex24 fo1
  ex33 le54 ex3 le1 ex18 le1 ex7 le10 ex2 st2 nu10 1 le16 ex3 1 le8 2 le2 2 le22 1 le7 1 le1 3 le4
  2 ex1 le1 ex7 2 ex2 2 ex3 le1 8 ex1 4 le2 1 le3 ex2 2 nu10 le2 10 le1 1 ex1 2 ex3 1 le6 4 le2 2
  le22 1 le7 1 le2 1 le2 1 le2 2 ex1 1 ex5 4 ex2 2 ex3 3 ex1 7 le4 1 le1 7 nu10 ex2 le3 ex1 11 ex3
  1 le9 1 le3 1 le22 1 le7 1 le2 1 le5 2 ex1 le1 ex8 1 ex3 1 ex3 2 le1 15 le2 ex2 2 nu10 9 le1 ex6
  1 ex3 1 le8 2 le2 2 le22 1 le7 1 le2 1 le5 2 ex1 le1 ex7 2 ex2 2 ex3 7 ex3 4 le2 1 le3 ex2 2
  nu10 1 le1 16 ex1 le1 1 le6 3 le3 1 le4 3 le2 1 le1 1 le2 3 le2 3 le3 3 le12 4 ex5 3 ex3 1 ex4 2
  le1 6 ex1 14 nu10 16 ex5 le8 1 le3 1 le23 1 le16 2 ex1 le1 ex7 1 ex3 1 ex4 7 ex2 1 le3 2 le1 2
  le2 ex2 2 nu10 16 le1 ex3 1 le8 1 le3 1 le23 1 le10 1 le5 2 ex1 le1 ex7 1 ex3 1 ex4 7 ex2 6 le2
  1 le2 ex2 2 nu10 1 le2 ex1 12 ex4 le9 1 le3 1 le41 ex2 le1 ex7 1 ex3 1 ex4 le1 5 le3 ex1 7 le3
  ex2 2 nu10 10 le6 1 ex3 1 le18 3 le24 1 le9 1 le1 2 le7 3 ex1 4 ex6 1 ex1 1 ex8 6 nu10 2 ex2 13
  le48 ex1 le2 ex7 5 le7 ex8 1 nu10 39 le2 1 le1 1 le5 1 le24 1 le1 1 le10 ex1 le2 ex9 le1 2 le5 1
  le1 1 ex7 1 nu10 2 le4 32 le1 23 ex2 6 nu10 11 ex1 1 ex1 1 ex1 cl4 ex2 le8 1 le36 4 ex20 1 ex2
  le5 ex11 1 ex36 9 ex1 57 le43 ex20 le1 nu10 st2 4 le6 ex4 le4 ex3 le1 ex3 le2 ex7 le3 ex4 le13
  ex12 le1 ex1 nu10 ex4 2 up38 1 up1 5 up1 2 le43 1 lo1 le332 1 le4 2 le7 1 le1 1 le4 2 le41 1 le4
  2 le33 1 le4 2 le7 1 le1 1 le4 2 le15 1 le57 1 le4 2 le67 2 ex3 2 st1 4 st2 23 le16 16 up86 2
  lo6 3 le620 1 st1 le17 sp1 le26 cl2 3 le75 3 le11 7 le18 ex4 9 le19 ex3 st2 9 le18 ex2 12 le13 1
  le3 1 ex2 12 le52 ex32 3 le1 4 le1 ex1 2 nu10 24 sc1 st1 4 sc1 st1 1 ex3 fo1 ex1 nu10 6 le89 7
  le5 ex2 le34 ex1 le1 5 le70 10 le31 1 ex12 4 ex12 8 st2 nu10 le30 2 le5 11 le44 4 le26 6 nu10 38
  le23 ex5 4 le53 ex10 1 ex29 2 ex1 nu10 6 nu10 13 le1 st4 4 ex31 49 ex5 le47 ex17 le8 1 st2 nu10
  st2 2 st2 11 ex9 9 st3 ex3 le30 ex13 le2 nu10 le44 ex14 12 le36 ex20 3 st2 3 nu10 3 le3 nu10
  le36 st2 lo9 up1 lo1 5 le43 2 le3 16 ex3 1 ex21 le4 ex1 le6 ex1 le2 ex3 le1 5 lo192 ex64 up1 lo1
  up1 lo1 up1 lo1 up1 lo1 up1 lo1 up1 lo1 up1 lo1 up1 lo1 up1 lo1 up1 lo1 up1 lo1 up1 lo1 up1 lo1
  up1 lo1 up1 lo1 up1 lo1 up1 lo1 up1 lo1 up1 lo1 up1 lo1 up1 lo1 up1 lo1 up1 lo1 up1 lo1 up1 lo1
  up1 lo1 up1 lo1 up1 lo1 up1 lo1 up1 lo1 up1 lo1 up1 lo1 up1 lo1 up1 lo1 up1 lo1 up1 lo1 up1 lo1
  up1 lo1 up1 lo1 up1 lo1 up1 lo1 up1 lo1 up1 lo1 up1 lo1 up1 lo1 up1 lo1 up1 lo1 up1 lo1 up1 lo1
  up1 lo1 up1 lo1 up1 lo1 up1 lo1 up1 lo1 up1 lo1 up1 lo1 up1 lo1 up1 lo1 up1 lo1 up1 lo1 up1 lo1
  up1 lo1 up1 lo1 up1 lo1 up1 lo1 up1 lo1 up1 lo1 up1 lo1 up1 lo1 up1 lo1 up1 lo1 up1 lo1 up1 lo1
  up1 lo1 up1 lo9 up1 lo1 up1 lo1 up1 lo1 up1 lo1 up1 lo1 up1 lo1 up1 lo1 up1 lo1 up1 lo1 up1 lo1
  up1 lo1 up1 lo1 up1 lo1 up1 lo1 up1 lo1 up1 lo1 up1 lo1 up1 lo1 up1 lo1 up1 lo1 up1 lo1 up1 lo1
  up1 lo1 up1 lo1 up1 lo1 up1 lo1 up1 lo1 up1 lo1 up1 lo1 up1 lo1 up1 lo1 up1 lo1 up1 lo1 up1 lo1
  up1 lo1 up1 lo1 up1 lo1 up1 lo1 up1 lo1 up1 lo1 up1 lo1 up1 lo1 up1 lo1 up1 lo1 up1 lo1 up1 lo1
  up1 lo1 up1 lo1 up1 lo9 up8 lo6 2 up6 2 lo8 up8 lo8 up8 lo6 2 up6 2 lo8 1 up1 1 up1 1 up1 1 up1
  lo8 up8 lo14 2 lo8 up8 lo8 up8 lo8 up8 lo5 1 lo2 up5 1 lo1 3 lo3 1 lo2 up5 3 lo4 2 lo2 up4 4 lo8
  up5 5 lo3 1 lo2 up5 3 sp11 fo1 ex2 fo2 3 sc2 3 cl8 4 at1 3 se2 fo5 sp1 9 cl2 1 st2 7 cl2 st3 21
  sp1 fo5 1 fo10 1 lo1 11 cl2 lo1 13 cl2 1 lo13 51 ex33 17 up1 4 up1 2 lo1 up3 lo2 up3 lo1 1 up1 3
  up5 6 up1 1 up1 1 up1 1 up4 1 lo1 up4 lo1 le4 lo1 2 lo2 up2 5 up1 lo4 4 lo1 17 up16 lo16 le3 up1
  lo1 le4 383 cl4 29 cl2 395 up26 lo26 625 cl6 7 cl14 79 cl2 31 cl10 403 cl22 63 cl4 32 cl2 514
  up48 lo48 up1 lo1 up3 lo2 up1 lo1 up1 lo1 up1 lo1 up4 lo1 up1 lo2 up1 lo8 up3 lo1 up1 lo1 up1
  lo1 up1 lo1 up1 lo1 up1 lo1 up1 lo1 up1 lo1 up1 lo1 up1 lo1 up1 lo1 up1 lo1 up1 lo1 up1 lo1 up1
  lo1 up1 lo1 up1 lo1 up1 lo1 up1 lo1 up1 lo1 up1 lo1 up1 lo1 up1 lo1 up1 lo1 up1 lo1 up1 lo1 up1
  lo1 up1 lo1 up1 lo1 up1 lo1 up1 lo1 up1 lo1 up1 lo1 up1 lo1 up1 lo1 up1 lo1 up1 lo1 up1 lo1 up1
  lo1 up1 lo1 up1 lo1 up1 lo1 up1 lo1 up1 lo1 up1 lo1 up1 lo1 up1 lo1 up1 lo1 up1 lo1 up1 lo2 6
  up1 lo1 up1 lo1 ex3 up1 lo1 12 lo38 1 lo1 5 lo1 2 le56 7 le1 15 ex1 le23 9 le7 1 le7 1 le7 1 le7
  1 le7 1 le7 1 le7 1 le7 1 ex32 cl14 14 cl2 2 cl10 4 st1 le1 12 st1 5 cl1 16 st2 cl8 419 sp1 sc1
  st1 2 le3 cl10 2 cl8 1 cl3 1 le9 ex6 1 le5 2 le5 4 le86 2 ex2 2 le3 1 le90 1 le4 5 le43 1 le94
  17 le32 48 le16 512 le6592 64 le22157 67 le46 1 st1 le269 1 st2 le16 nu10 le2 20 up1 lo1 up1 lo1
  up1 lo1 up1 lo1 up1 lo1 up1 lo1 up1 lo1 up1 lo1 up1 lo1 up1 lo1 up1 lo1 up1 lo1 up1 lo1 up1 lo1
  up1 lo1 up1 lo1 up1 lo1 up1 lo1 up1 lo1 up1 lo1 up1 lo1 up1 lo1 up1 lo1 le1 ex4 1 ex10 1 le1 up1
  lo1 up1 lo1 up1 lo1 up1 lo1 up1 lo1 up1 lo1 up1 lo1 up1 lo1 up1 lo1 up1 lo1 up1 lo1 up1 lo1 up1
  lo1 up1 lo3 ex2 le80 ex2 1 st1 3 st1 31 le9 2 up1 lo1 up1 lo1 up1 lo1 up1 lo1 up1 lo1 up1 lo1
  up1 lo3 up1 lo1 up1 lo1 up1 lo1 up1 lo1 up1 lo1 up1 lo1 up1 lo1 up1 lo1 up1 lo1 up1 lo1 up1 lo1
  up1 lo1 up1 lo1 up1 lo1 up1 lo1 up1 lo1 up1 lo1 up1 lo1 up1 lo1 up1 lo1 up1 lo1 up1 lo1 up1 lo1
  up1 lo1 up1 lo1 up1 lo1 up1 lo1 up1 lo1 up1 lo1 up1 lo1 up1 lo10 up1 lo1 up1 lo1 up2 lo1 up1 lo1
  up1 lo1 up1 lo1 up1 lo1 le1 2 up1 lo1 up1 lo1 le1 up1 lo1 up1 lo3 up1 lo1 up1 lo1 up1 lo1 up1
  lo1 up1 lo1 up1 lo1 up1 lo1 up1 lo1 up1 lo1 up1 lo1 up5 lo1 up5 lo1 up1 lo1 up1 lo1 up1 lo1 up1
  lo1 up1 lo1 up1 lo1 up1 lo1 up4 lo1 up1 lo1 up2 lo1 2 up1 lo1 1 lo1 1 lo1 up1 lo1 up1 lo1 up1
  lo1 up1 21 lo3 up1 lo1 le1 lo3 le7 ex1 le3 ex1 le4 ex1 le23 ex5 4 ex1 19 le52 2 st2 8 ex2 le50
  ex18 8 st2 nu10 6 ex18 le6 3 le1 1 le2 ex1 nu10 le28 ex8 1 st1 le23 ex13 12 le29 3 ex4 le47 ex14
  7 st2 5 le1 nu10 6 le5 ex1 le10 nu10 le5 1 le41 ex14 9 le3 ex1 le8 ex2 2 nu10 3 st3 le23 3 le1
  ex3 le50 ex1 le1 ex3 le2 ex2 le5 ex2 le1 ex1 le1 24 le3 2 le11 ex5 st2 le3 ex2 10 le6 2 le6 2
  le6 9 le7 1 le7 1 lo43 1 lo14 6 lo80 le35 ex8 st1 ex2 2 nu10 6 le11172 12 le23 4 le49 8452 le366
  2 le106 38 lo7 12 lo5 5 le1 ex1 le10 1 le13 1 le5 1 le1 1 le2 1 le2 1 le108 33 le363 cl2 16 le64
  2 le54 40 le12 4 ex16 sc2 1 sc1 3 cl2 7 ex16 1 sc2 2 cl16 2 cl2 7 sc2 at1 2 sc1 st2 sc1 cl6 4
  sc1 12 le5 1 le135 2 fo1 1 st1 6 cl2 2 sc2 at1 1 nu10 sc1 4 st1 1 up26 cl1 1 cl1 3 lo26 cl1 1
  cl1 1 cl2 st1 cl2 sc1 1 le56 ex2 le31 3 le6 2 le6 2 le6 2 le3 28 fo3 4 le12 1 le26 1 le19 1 le2
  1 le15 2 le14 34 le123 69 le53 136 ex1 130 le29 3 le49 15 ex1 31 le32 13 le30 5 le38 ex5 5 le30
  2 le36 4 le8 1 le5 42 up40 lo40 le78 2 nu10 6 up36 4 lo36 4 le40 8 le52 12 up11 1 up15 1 up7 1
  up2 1 lo11 1 lo15 1 lo7 1 lo2 3 le52 12 le311 9 le22 10 le8 24 lo1 le2 lo3 1 lo42 1 lo9 69 le6 2
  le1 1 le44 1 le2 3 le1 2 le23 10 le23 9 le31 65 le19 1 le2 10 le22 10 le26 70 le56 6 le2 64 le1
  ex3 1 ex2 5 ex4 le4 1 le3 1 le29 2 ex3 4 ex1 22 st2 8 le29 3 le29 35 le8 1 le28 ex2 25 le54 10
  le22 10 le19 13 le18 110 le73 55 up51 13 lo51 13 le36 ex4 8 nu10 6 nu10 le6 up22 3 ex5 1 le1
  lo22 250 le42 1 ex2 3 le2 16 le3 55 ex4 le29 10 le1 8 le22 ex11 4 st5 22 le18 ex4 st4 38 le21 27
  le23 9 ex3 le53 ex15 st2 29 nu10 ex1 le2 ex2 le1 9 ex4 le45 ex11 2 fo1 st4 ex1 10 fo1 2 le25 7
  nu10 6 ex3 le36 ex14 1 nu10 1 st3 le1 ex2 le1 8 le35 ex1 2 le1 9 ex3 le48 ex14 le4 st2 2 ex4 st1
  ex2 nu10 le1 1 le1 1 st2 32 le18 1 le25 ex12 st2 1 st2 1 ex1 le2 ex1 62 le7 1 le1 1 le4 1 le15 1
  le10 st1 6 le47 ex12 5 nu10 6 ex4 1 le8 2 le2 2 le22 1 le7 1 le2 1 le5 1 ex2 le1 ex7 2 ex2 2 ex3
  2 le1 6 ex1 5 le5 ex2 2 ex7 3 ex5 11 le10 1 le1 2 le1 1 le38 1 le1 ex9 1 ex1 2 ex1 1 ex4 1 ex5
  le1 ex1 le1 st2 11 ex2 29 le53 ex18 le4 st2 3 nu10 4 ex1 le3 30 le48 ex20 le2 1 le1 8 nu10 166
  le47 ex7 2 ex9 1 st2 5 st15 le4 ex2 34 le48 ex17 st2 1 le1 11 nu10 38 le43 ex13 le1 7 nu10 6
  nu20 28 le27 2 ex15 4 nu10 2 st3 1 le7 185 le44 ex15 101 up32 lo32 nu10 21 le8 2 le1 2 le8 1 le2
  1 le24 ex6 1 ex2 2 ex4 le1 ex1 le1 ex2 st1 1 st1 9 nu10 70 le8 2 le39 ex7 2 ex7 le1 1 le1 ex1 27
  le1 ex10 le40 ex7 le1 ex4 3 st2 3 ex1 8 le1 ex11 le46 ex16 1 st2 le1 18 le73 199 le33 15 nu10 6
  le9 1 le37 ex8 1 ex8 le1 st2 13 nu10 24 le30 2 ex22 1 ex14 73 le7 1 le2 1 le38 ex6 3 ex1 1 ex2 1
  ex7 le1 ex1 8 nu10 6 le6 1 le2 1 le32 ex5 1 ex2 1 ex5 le1 7 nu10 310 le19 ex4 st2 7 ex2 le1 ex1
  le13 1 le34 ex7 3 ex5 st2 11 nu10 ex1 85 le1 79 le922 102 le111 17 le196 2636 le97 15 le1072
  fo16 ex1 le6 ex15 10 le3995 5 le583 6841 le30 ex18 nu10 1734 le569 7 le31 1 nu10 4 st2 le79 1
  nu10 6 le30 2 ex5 st1 10 le48 ex7 st2 7 le4 st1 11 nu10 9 le21 5 le19 432 le45 1 st2 nu10 198
  up32 lo32 24 st1 103 le75 4 ex1 le1 ex55 7 ex4 le13 64 le2 1 le1 ex1 11 ex2 14 le6136 8 le1238
  41 le10 8935 le4 1 le7 1 le2 1 le291 15 le1 29 le3 2 le1 14 le4 8 le396 2308 le107 5 le13 3 le9
  7 le10 3 ex2 st1 fo4 4172 nu10 518 ex46 2 ex23 542 ex5 3 ex6 fo8 ex8 2 ex7 30 ex4 148 ex3 443
  up26 lo26 up26 lo7 1 lo18 up26 lo26 up1 1 up2 2 up1 2 up2 2 up4 1 up8 lo4 1 lo1 1 lo7 1 lo11
  up26 lo26 up2 1 up4 2 up8 1 up7 1 lo26 up2 1 up4 1 up5 1 up1 3 up7 1 lo26 up26 lo26 up26 lo26
  up26 lo26 up26 lo26 up26 lo26 up26 lo28 2 up25 1 lo25 1 lo6 up25 1 lo25 1 lo6 up25 1 lo25 1 lo6
  up25 1 lo25 1 lo6 up25 1 lo25 1 lo6 up1 lo1 2 nu50 512 ex55 4 ex50 8 ex1 14 ex1 3 st1 18 ex5 1
  ex15 1104 lo10 le1 lo20 6 lo6 213 ex7 1 ex17 2 ex7 1 ex2 1 ex5 5 lo62 33 ex1 112 le45 3 ex7 le7
  2 nu10 4 le1 321 le30 ex1 17 le44 ex4 nu10 470 le28 ex4 nu10 214 le30 ex2 le1 nu10 485 le7 1 le4
  1 le2 1 le15 1 le197 11 ex7 41 up34 lo34 ex7 le1 4 nu10 1190 le4 1 le27 1 le2 1 le1 2 le1 1 le10
  1 le4 1 le1 1 le1 6 le1 4 le1 1 le1 1 le1 1 le3 1 le2 1 le1 2 le1 1 le1 1 le1 1 le1 1 le1 1 le2
  1 le1 2 le4 1 le7 1 le4 1 le4 1 le1 1 le10 1 le17 5 le3 1 le5 1 le17 628 up26 6 up26 6 up26 1260
  cl3 1399 nu10 1030 le42720 32 le4154 6 le222 2 le5762 14 le7473 15 le622 2466 le542 1506 le4939
  5 le4192 711761 fo1 30 ex96 128 ex240"

end ProtoRules.Text
