import ContentCode.Bits

/-!
MinHash: 64 hash functions are applied to every feature, and of each function the least value is
kept. The digest takes the four low bits of each of these values.
-/

namespace ContentCode.MinHash

/-- The function that takes a feature `f` to the low 32 bits of `multiplier * f + addend`, reckoned
modulo 2 ^ 64 and then modulo the prime 2 ^ 61 - 1. -/
structure HashFunction where
  multiplier : UInt64
  addend : UInt64

def prime : UInt64 := 0x1FFFFFFFFFFFFFFF

/-- The largest value, which is also the least one over no features. -/
def maxValue : UInt64 := 0xFFFFFFFF

def HashFunction.apply (h : HashFunction) (f : UInt32) : UInt64 :=
  ((h.multiplier * f.toUInt64 + h.addend) % prime) &&& maxValue

def functions : List HashFunction := [
  ⟨853146490016488653, 1089606993368836715⟩, ⟨1849332765672628665, 726972438868274737⟩,
  ⟨1131688930666554379, 66204585613901025⟩, ⟨1936485333668353377, 1078410179646709132⟩,
  ⟨890837126813020267, 1343470117098523467⟩, ⟨1988249303247129861, 698653121981343911⟩,
  ⟨1408894512544874755, 1248486536592473639⟩, ⟨2140251716176616185, 1447963007834012793⟩,
  ⟨1755124413189049421, 1034598851883537815⟩, ⟨1355916793659431597, 1474008409379745934⟩,
  ⟨546586563822844083, 793773480906057541⟩, ⟨497603761441203021, 980501101461882479⟩,
  ⟨2000709902557454173, 963941556313537655⟩, ⟨1057597903350092207, 233651787311327325⟩,
  ⟨1576204252850880253, 243905121737149907⟩, ⟨2078784234495706739, 570269452476776142⟩,
  ⟨1022616668454863635, 297633284648631084⟩, ⟨2150082342606334489, 1516796967247398557⟩,
  ⟨712341150087765807, 1494795672066692649⟩, ⟨1511757510246096559, 1728741177365151059⟩,
  ⟨1525853819909660573, 1029197538967983408⟩, ⟨1263771796138990131, 1660732464170610344⟩,
  ⟨1215963627200985263, 1399769594446678069⟩, ⟨590069150281426443, 506465470557005705⟩,
  ⟨130824646248385081, 1279720146829545181⟩, ⟨962725325544728503, 860096419955634036⟩,
  ⟨1702561325943522847, 411519685280832908⟩, ⟨296074222435072629, 69539191273403207⟩,
  ⟨490211158716051523, 1960489729088056217⟩, ⟨1255327197241792767, 605092075716397684⟩,
  ⟨699458998727907367, 1017496016211653149⟩, ⟨32930168991409845, 1304834535101321372⟩,
  ⟨1985097843455124585, 949013511180032347⟩, ⟨362027841570125531, 1142776242221098779⟩,
  ⟨1903252144040897835, 576980004709031232⟩, ⟨900391845076405289, 1071272177143100544⟩,
  ⟨547470123601853551, 1494527341093835499⟩, ⟨1689373724032359119, 1073290814142727850⟩,
  ⟨845594231933442371, 1285904200674942617⟩, ⟨400331968021206285, 1277176606329477335⟩,
  ⟨174967108345233429, 343788427301735585⟩, ⟨876513700861085019, 2100915269685487331⟩,
  ⟨505848386844809885, 1227711252031557450⟩, ⟨1920468508342256199, 18593166391963377⟩,
  ⟨1292611725303815789, 2101884148332688233⟩, ⟨963317239501343903, 191808277534686888⟩,
  ⟨1730880032297268007, 2170124912729392024⟩, ⟨284614929850059717, 918430470748151293⟩,
  ⟨1185026248283273081, 1831024560113812361⟩, ⟨2167288823816985197, 1951365515851067694⟩,
  ⟨1214905315086686483, 744352348473654499⟩, ⟨1555253098157439857, 1921518311887826722⟩,
  ⟨1048013650291539723, 2020165648600700886⟩, ⟨1238618594841147605, 1764930142256726985⟩,
  ⟨1213502582686547311, 1903893374912839788⟩, ⟨286300733803129311, 1449378957774802122⟩,
  ⟨1250358511639043529, 1435825328374066345⟩, ⟨407534797452854371, 833197549717762813⟩,
  ⟨960869149538623787, 2238991044337210799⟩, ⟨1722699901467253087, 748955638857938366⟩,
  ⟨1325704236119824319, 1834583747494146901⟩, ⟨196979859428570839, 222012292803592982⟩,
  ⟨1669408735473259699, 901238460725547841⟩, ⟨781336617016068757, 1501611130776083278⟩]

def minimum (h : HashFunction) (features : List UInt32) : UInt64 :=
  features.foldl (fun m f => min m (h.apply f)) maxValue

def minima (features : List UInt32) : List UInt64 := functions.map fun h => minimum h features

/-- The lowest bits of all minima, then the second lowest ones, and so on. -/
def digest (features : List UInt32) : List UInt8 :=
  let mins := minima features
  Bits.toBytes ((List.range 4).flatMap fun i => mins.map fun m => m.toNat.testBit i)

end ContentCode.MinHash
