import PluginAudit.Text.Digit
import PluginAudit.Text.Pieces
import PluginAudit.Text.Ranges

namespace PluginAudit.Text

/-- Starts of names in capital letters, and for each what can follow it, with bars between. -/
def characterNames : List (String × List String) := [
  ("", [
    "ABACUS|AC CURRENT|ACCORDION|ACCOUNT OF|ACK|ACKNOWLEDGE|ACTIVATE ARABIC FORM SHAPING|ACTIVATE SYMMETRIC SWAPPING",
    "ACUTE ACCENT|ADDRESSED TO THE SUBJECT|ADHESIVE BANDAGE|ADI SHAKTI|ADMETOS|ADMISSION TICKETS|ADULT|AERIAL TRAMWAY",
    "AIRPLANE|AIRPLANE ARRIVING|AIRPLANE DEPARTURE|AKTIESELSKAB|ALARM CLOCK|ALEF SYMBOL|ALEMBIC|ALERT|ALIEN MONSTER",
    "ALL AROUND-PROFILE|ALL EQUAL TO|ALM|ALMOST EQUAL OR EQUAL TO|ALMOST EQUAL TO|ALTERNATE ONE-WAY LEFT WAY TRAFFIC",
    "ALTERNATIVE KEY SYMBOL|AMBULANCE|AMERICAN FOOTBALL|AMPERSAND|AMPHORA|ANATOMICAL HEART|ANCHOR|ANGER SYMBOL|ANGLE",
    "ANGRY FACE|ANGSTROM SIGN|ANGUISHED FACE|ANKH|ANT|ANTENNA WITH BARS|APC|APOLLON|APOSTROPHE",
    "APPLICATION PROGRAM COMMAND|APPROACHES THE LIMIT|APPROXIMATELY BUT NOT ACTUALLY EQUAL TO|APPROXIMATELY EQUAL TO",
    "APPROXIMATELY EQUAL TO OR THE IMAGE OF|AQUARIUS|ARC|ARIES|ARTICULATED LORRY|ARTIST PALETTE|ASCENDING NODE|ASSERTION",
    "ASTERISK|ASTERISK OPERATOR|ASTERISM|ASTONISHED FACE|ASTRAEA|ASTRONOMICAL SYMBOL FOR URANUS|ASYMPTOTICALLY EQUAL TO",
    "ATHLETIC SHOE|ATOM SYMBOL|AUBERGINE|AUSTRAL SIGN|AUTO RICKSHAW|AUTOMATED TELLER MACHINE|AUTOMOBILE|AVOCADO|AXE|BABY",
    "BABY ANGEL|BABY BOTTLE|BABY CHICK|BABY SYMBOL|BACK OF ENVELOPE|BACK WITH LEFTWARDS ARROW ABOVE",
    "BACK-TILTED SHADOWED WHITE RIGHTWARDS ARROW|BACKSLANTED SOUTH ARROW WITH HOOKED TAIL",
    "BACKSLANTED SOUTH ARROW WITH HORIZONTAL TAIL|BACKSPACE|BACON|BACTRIAN CAMEL|BADGER|BADMINTON RACQUET AND SHUTTLECOCK",
    "BAGEL|BAGGAGE CLAIM|BAGUETTE BREAD|BALL OF YARN|BALLET SHOES|BALLOON|BALLOON-SPOKED ASTERISK|BALLOT BOLD SCRIPT X",
    "BALLOT BOX|BALLOT SCRIPT X|BALLOT X|BANANA|BANJO|BANK|BANKNOTE WITH DOLLAR SIGN|BANKNOTE WITH EURO SIGN",
    "BANKNOTE WITH POUND SIGN|BANKNOTE WITH YEN SIGN|BAR CHART|BAR OF SOAP|BARBER POLE|BASEBALL|BASKET",
    "BASKETBALL AND HOOP|BAT|BATH|BATHTUB|BATTERY|BEACH WITH UMBRELLA|BEAMED ASCENDING MUSICAL NOTES",
    "BEAMED DESCENDING MUSICAL NOTES|BEAMED EIGHTH NOTES|BEAMED SIXTEENTH NOTES|BEANS|BEAR FACE|BEARDED PERSON",
    "BEATING HEART|BEAVER|BECAUSE|BED|BEER MUG|BEETLE|BEL|BELL|BELL PEPPER|BELL SYMBOL|BELL WITH CANCELLATION STROKE",
    "BELLHOP BELL|BENT ARROW POINTING DOWNWARDS THEN NORTH EAST|BENTO BOX|BENZENE RING|BENZENE RING WITH CIRCLE",
    "BET SYMBOL|BETWEEN|BEVERAGE BOX|BICYCLE|BICYCLIST|BIKINI|BILLED CAP|BILLIARDS|BIOHAZARD SIGN|BIRD|BIRTHDAY CAKE",
    "BISON|BITCOIN SIGN|BITING LIP|BLACK-FEATHERED NORTH EAST ARROW|BLACK-FEATHERED RIGHTWARDS ARROW",
    "BLACK-FEATHERED SOUTH EAST ARROW|BLACK-LETTER CAPITAL C|BLACK-LETTER CAPITAL H|BLACK-LETTER CAPITAL I",
    "BLACK-LETTER CAPITAL R|BLACK-LETTER CAPITAL Z|BLOSSOM|BLOWFISH|BLUE BOOK|BLUE HEART|BLUEBERRIES|BOAR|BOM|BOMB|BONE",
    "BOOK|BOOKMARK|BOOKMARK TABS|BOOKS|BOOMERANG|BOTTLE WITH POPPING CORK|BOUQUET|BOUQUET OF FLOWERS|BOW AND ARROW",
    "BOWL OF HYGIEIA|BOWL WITH SPOON|BOWLING|BOWTIE|BOXING GLOVE|BOY|BOYS SYMBOL|BPH|BRAIN|BREAD|BREAK PERMITTED HERE",
    "BREAST-FEEDING|BREVE|BRICK|BRIDE WITH VEIL|BRIDGE AT NIGHT|BRIEFCASE|BRIEFS|BROCCOLI|BROKEN BAR",
    "BROKEN CIRCLE WITH NORTHWEST ARROW|BROKEN HEART|BROOM|BROWN HEART|BS|BUBBLE TEA|BUBBLES|BUCKET|BUG",
    "BUILDING CONSTRUCTION|BULLET|BULLET OPERATOR|BULLHORN|BULLHORN WITH SOUND WAVES|BULLSEYE|BURRITO|BUS|BUS STOP",
    "BUST IN SILHOUETTE|BUSTS IN SILHOUETTE|BUTTER|BUTTERFLY|BYTE ORDER MARK|CACTUS|CADA UNA|CADUCEUS|CALENDAR",
    "CALL ME HAND|CAMERA|CAMERA WITH FLASH|CAMPING|CAN|CANCEL|CANCEL CHARACTER|CANCELLATION X|CANCER|CANDLE|CANDY",
    "CANNED FOOD|CANOE|CAPRICORN|CAR SLIDING|CARD FILE BOX|CARD INDEX|CARD INDEX DIVIDERS|CARE OF|CARET",
    "CARET INSERTION POINT|CARON|CAROUSEL HORSE|CARP STREAMER|CARPENTRY SAW|CARRIAGE RETURN|CARROT|CASTLE|CAT|CAT FACE",
    "CAT FACE WITH TEARS OF JOY|CAT FACE WITH WRY SMILE|CAUTION SIGN|CCH|CEDI SIGN|CEDILLA|CELTIC CROSS|CENT SIGN",
    "CENTRE LINE SYMBOL|CERES|CGJ|CHAINS|CHAIR|CHARACTER TABULATION|CHARACTER TABULATION SET",
    "CHARACTER TABULATION WITH JUSTIFICATION|CHARACTER TIE|CHART WITH DOWNWARDS TREND|CHART WITH UPWARDS TREND",
    "CHART WITH UPWARDS TREND AND YEN SIGN|CHECK MARK|CHEERING MEGAPHONE|CHEESE WEDGE|CHEQUERED FLAG|CHERRIES",
    "CHERRY BLOSSOM|CHESTNUT|CHI RHO|CHICKEN|CHILD|CHILDREN CROSSING|CHIPMUNK|CHIRON|CHOCOLATE BAR|CHOPSTICKS",
    "CHRISTMAS TREE|CHURCH|CINEMA|CIRCUMFLEX ACCENT|CIRCUS TENT|CITYSCAPE|CITYSCAPE AT DUSK|CLAMSHELL MOBILE PHONE",
    "CLAPPER BOARD|CLAPPING HANDS SIGN|CLASSICAL BUILDING|CLEAR SCREEN SYMBOL|CLINKING BEER MUGS|CLINKING GLASSES",
    "CLIPBOARD|CLOSE UP|CLOSED BOOK|CLOSED LOCK WITH KEY|CLOSED MAILBOX WITH LOWERED FLAG|CLOSED MAILBOX WITH RAISED FLAG",
    "CLOSED UMBRELLA|CLOUD|CLOUD WITH LIGHTNING|CLOUD WITH RAIN|CLOUD WITH SNOW|CLOUD WITH TORNADO|CLOWN FACE|COAT",
    "COCKROACH|COCKTAIL GLASS|COCONUT|COFFIN|COIN|COLLISION SYMBOL|COLON|COLON EQUALS|COLON SIGN|COMET|COMMA",
    "COMMERCIAL AT|COMMERCIAL MINUS SIGN|COMPASS|COMPLEMENT|COMPOSITION SYMBOL|COMPRESSION|CONFETTI BALL|CONFOUNDED FACE",
    "CONFUSED FACE|CONICAL TAPER|CONJUNCTION|CONSTRUCTION SIGN|CONSTRUCTION WORKER|CONTINUOUS UNDERLINE SYMBOL",
    "CONTOUR INTEGRAL|CONTROL KNOBS|CONTROL SEQUENCE INTRODUCER|CONVENIENCE STORE|COOKED RICE|COOKIE|COOKING",
    "COPYLEFT SYMBOL|COPYRIGHT SIGN|CORAL|CORRESPONDS TO|COUCH AND LAMP|COUNTERBORE|COUNTERSINK|COUPLE WITH HEART|COW",
    "COW FACE|CR|CRAB|CREDIT CARD|CRESCENT MOON|CRICKET|CRICKET BAT AND BALL|CROCODILE|CROISSANT|CROSS MARK",
    "CROSS OF JERUSALEM|CROSS OF LORRAINE|CROSS POMMEE|CROSS POMMEE WITH HALF-CIRCLE BELOW|CROSSED FLAGS",
    "CROSSED NEGATIVE SQUARED LATIN CAPITAL LETTER P|CROSSED SWORDS|CROSSING LANES|CROWN|CRUTCH|CRUZEIRO SIGN",
    "CRYING CAT FACE|CRYING FACE|CRYSTAL BALL|CSI|CUBE ROOT|CUCUMBER|CUP ON BLACK SQUARE|CUP WITH STRAW|CUPCAKE|CUPIDO",
    "CURLING STONE|CURLY BRACKET EXTENSION|CURLY LOGICAL AND|CURLY LOGICAL OR|CURLY LOOP|CURRENCY EXCHANGE|CURRENCY SIGN",
    "CURRY AND RICE|CURVED STEM PARAGRAPH SIGN ORNAMENT|CUSTARD|CUSTOMS|CUT OF MEAT|CYCLONE|CYLINDRICITY|DAGGER",
    "DAGGER KNIFE|DALET SYMBOL|DANCER|DANGO|DARK SHADE|DARK SUNGLASSES|DASH SYMBOL",
    "DASHED TRIANGLE-HEADED RIGHTWARDS ARROW|DATA LINK ESCAPE|DC1|DC2|DC3|DC4|DCS|DEAF PERSON|DECIDUOUS TREE",
    "DECIMAL EXPONENT SYMBOL|DECIMAL SEPARATOR KEY SYMBOL|DECREASE FONT SIZE SYMBOL|DEER|DEGREE CELSIUS|DEGREE FAHRENHEIT",
    "DEGREE SIGN|DEL|DELETE|DELIVERY TRUCK|DELTA EQUAL TO|DEPARTMENT STORE|DERELICT HOUSE BUILDING|DESCENDING NODE|DESERT",
    "DESERT ISLAND|DESKTOP COMPUTER|DESKTOP WINDOW|DEVICE CONTROL FOUR|DEVICE CONTROL ONE|DEVICE CONTROL STRING",
    "DEVICE CONTROL THREE|DEVICE CONTROL TWO|DIAERESIS|DIAMETER SIGN|DIESEL LOCOMOTIVE|DIFFERENCE BETWEEN",
    "DIGRAM FOR GREATER YANG|DIGRAM FOR GREATER YIN|DIGRAM FOR LESSER YANG|DIGRAM FOR LESSER YIN|DIMENSION ORIGIN",
    "DINGBAT CIRCLED SANS-SERIF NUMBER TEN|DINGBAT NEGATIVE CIRCLED NUMBER TEN",
    "DINGBAT NEGATIVE CIRCLED SANS-SERIF NUMBER TEN|DIRECT CURRENT SYMBOL FORM TWO|DIRECT HIT|DISABLED CAR",
    "DISAPPOINTED BUT RELIEVED FACE|DISAPPOINTED FACE|DISCONTINUOUS UNDERLINE SYMBOL|DISGUISED FACE|DITTO MARK|DIVIDES",
    "DIVING MASK|DIVISION SIGN|DIVISION SLASH|DIVISION TIMES|DIVORCE SYMBOL|DIYA LAMP|DIZZY FACE|DIZZY SYMBOL|DLE",
    "DNA DOUBLE HELIX|DO NOT LITTER SYMBOL|DOCUMENT|DOCUMENT WITH PICTURE|DOCUMENT WITH TEXT",
    "DOCUMENT WITH TEXT AND PICTURE|DODO|DOG|DOG FACE|DOLLAR SIGN|DOLPHIN|DONG SIGN|DOOR|DOT ABOVE|DOT MINUS|DOT OPERATOR",
    "DOT PLUS|DOTTED CIRCLE|DOTTED CROSS|DOTTED LINE FACE|DOTTED SQUARE|DOUBLED FEMALE SIGN|DOUBLED MALE SIGN",
    "DOUBLED SYMBOL|DOUGHNUT|DOVE OF PEACE|DOWN ARROWHEAD|DOWN RIGHT DIAGONAL ELLIPSIS|DOWN TACK",
    "DOWN-POINTING RED TRIANGLE|DOWN-POINTING SMALL RED TRIANGLE|DOWNWARD FACING HOOK|DOWNWARD FACING HOOK WITH DOT",
    "DOWNWARD FACING NOTCHED HOOK|DOWNWARD FACING NOTCHED HOOK WITH DOT|DRACHMA SIGN|DRAFTING POINT RIGHTWARDS ARROW",
    "DRAGON|DRAGON FACE|DRESS|DRIVE SLOW SIGN|DROMEDARY CAMEL|DROOLING FACE|DROP OF BLOOD|DROPLET|DRUM WITH DRUMSTICKS",
    "DUCK|DUMPLING|DVD|E-MAIL SYMBOL|EAGLE|EAR|EAR OF MAIZE|EAR OF RICE|EAR WITH HEARING AID|EARTH|EARTH GLOBE AMERICAS",
    "EARTH GLOBE ASIA-AUSTRALIA|EARTH GLOBE EUROPE-AFRICA|EARTH GROUND|EAST SYRIAC CROSS|EGG|EIGHTH NOTE|EJECT SYMBOL",
    "ELECTRIC ARROW|ELECTRIC LIGHT BULB|ELECTRIC PLUG|ELECTRIC TORCH|ELECTRICAL INTERSECTION|ELEMENT OF|ELEPHANT|ELEVATOR",
    "ELF|EM DASH|EM QUAD|EM SPACE|EMPHASIS SYMBOL|EN DASH|EN QUAD|EN SPACE|END WITH LEFTWARDS ARROW ABOVE|ENQ|ENQUIRY",
    "ENTER SYMBOL|ENVELOPE|ENVELOPE WITH DOWNWARDS ARROW ABOVE|ENVELOPE WITH LIGHTNING|EOL|EOM|EOT|EPA|EQUALS COLON",
    "EQUALS SIGN|EQUALS SIGN ABOVE LEFTWARDS ARROW|EQUALS SIGN WITH INFINITY BELOW|EQUIANGULAR TO|EQUIVALENT TO",
    "ERASE TO THE LEFT|ERASE TO THE RIGHT|ERIS FORM ONE|ERIS FORM TWO|ESA|ESC|ESCAPE|ESTIMATED SYMBOL|ESTIMATES|ETB|ETX",
    "EULER CONSTANT|EURO SIGN|EURO-CURRENCY SIGN|EUROPEAN CASTLE|EUROPEAN POST OFFICE|EVERGREEN TREE|EXCESS",
    "EXCLAMATION MARK|EXCLAMATION QUESTION MARK|EXPRESSIONLESS FACE|EXTRATERRESTRIAL ALIEN|EYE|EYEGLASSES|EYES",
    "FACSIMILE SIGN|FACTORY|FAIRY|FALAFEL|FALLEN LEAF|FALLING DIAGONAL IN WHITE CIRCLE IN BLACK SQUARE|FAMILY",
    "FARSI SYMBOL|FATHER CHRISTMAS|FAX ICON|FAX MACHINE|FEARFUL FACE|FEATHER|FEMALE SIGN|FEMININE ORDINAL INDICATOR",
    "FENCER|FERRIS WHEEL|FERRY|FF|FIELD HOCKEY STICK AND BALL|FIGURE DASH|FIGURE SPACE|FILE CABINET|FILE FOLDER",
    "FILE SEPARATOR|FILM FRAMES|FILM PROJECTOR|FIRE|FIRE ENGINE|FIRE EXTINGUISHER|FIRECRACKER|FIREWORK SPARKLER|FIREWORKS",
    "FIRST PLACE MEDAL|FIRST QUARTER MOON|FIRST QUARTER MOON SYMBOL|FIRST QUARTER MOON WITH FACE|FIRST STRONG ISOLATE",
    "FISH|FISH CAKE WITH SWIRL DESIGN|FISHEYE|FISHING POLE AND FISH|FISTED HAND SIGN|FIVE DOT PUNCTUATION|FLAG IN HOLE",
    "FLAMINGO|FLAT SHOE|FLATBREAD|FLATNESS|FLEUR-DE-LIS|FLEXED BICEPS|FLOPPY DISK|FLORAL HEART|FLOWER",
    "FLOWER PLAYING CARDS|FLOWER PUNCTUATION MARK|FLUSHED FACE|FLY|FLYING DISC|FLYING ENVELOPE|FLYING SAUCER|FOG|FOGGY",
    "FOLDER|FONDUE|FOOT|FOOTPRINTS|FOR ALL|FORCES|FORK AND KNIFE|FORK AND KNIFE WITH PLATE|FORM FEED|FORTUNE COOKIE",
    "FOUNTAIN|FOUR-PER-EM SPACE|FOURTH ROOT|FOX FACE|FRACTION NUMERATOR ONE|FRACTION SLASH|FRAME WITH AN X",
    "FRAME WITH PICTURE|FRAME WITH TILES|FREEZING FACE|FRENCH FRANC SIGN|FRENCH FRIES|FRIED SHRIMP|FROG FACE",
    "FRONT-FACING BABY CHICK|FRONT-TILTED SHADOWED WHITE RIGHTWARDS ARROW|FROWN|FROWNING FACE WITH OPEN MOUTH|FS|FSI",
    "FUEL PUMP|FULL BLOCK|FULL MOON SYMBOL|FULL MOON WITH FACE|FULL STOP|FUNCTION APPLICATION|FUNERAL URN|FUSE|GAME DIE",
    "GARLIC|GEAR|GEAR WITH HANDLES|GEAR WITHOUT HUB|GEM STONE|GEMINI|GENIE|GEOMETRIC PROPORTION|GEOMETRICALLY EQUAL TO",
    "GEOMETRICALLY EQUIVALENT TO|GERMAN PENNY SIGN|GETA MARK|GHOST|GIMEL SYMBOL|GIRAFFE FACE|GIRL|GIRLS SYMBOL",
    "GLASS OF MILK|GLOBE WITH MERIDIANS|GLOVES|GLOWING STAR|GOAL NET|GOAT|GOGGLES|GOLFER|GORILLA|GRADUATION CAP|GRAPES",
    "GRAVE ACCENT|GREEN APPLE|GREEN BOOK|GREEN HEART|GREEN SALAD|GRIMACING FACE|GRINNING CAT FACE WITH SMILING EYES",
    "GRINNING FACE|GRINNING FACE WITH ONE LARGE AND ONE SMALL EYE|GRINNING FACE WITH SMILING EYES",
    "GRINNING FACE WITH STAR EYES|GROUP MARK|GROUP SEPARATOR|GROWING HEART|GS|GUARANI SIGN|GUARDSMAN|GUIDE DOG|GUITAR",
    "HADES|HAIR SPACE|HAIRCUT|HALFWIDTH IDEOGRAPHIC COMMA|HALFWIDTH IDEOGRAPHIC FULL STOP|HALFWIDTH KATAKANA MIDDLE DOT",
    "HALFWIDTH LEFT CORNER BRACKET|HALFWIDTH RIGHT CORNER BRACKET|HAMBURGER|HAMMER|HAMMER AND PICK|HAMMER AND SICKLE",
    "HAMMER AND WRENCH|HAMSA|HAMSTER FACE|HAND WITH INDEX AND MIDDLE FINGERS CROSSED",
    "HAND WITH INDEX FINGER AND THUMB CROSSED|HANDBAG|HANDBALL|HANDSHAKE|HANGUL DOUBLE DOT TONE MARK",
    "HANGUL SINGLE DOT TONE MARK|HAPPY PERSON RAISING ONE HAND|HARD DISK|HATCHING CHICK|HEADPHONE|HEADSTONE",
    "HEADSTONE GRAVEYARD SYMBOL|HEAR-NO-EVIL MONKEY|HEART DECORATION|HEART HANDS|HEART WITH ARROW|HEART WITH RIBBON",
    "HEART WITH TIP ON THE LEFT|HEDGEHOG|HELICOPTER|HELLSCHREIBER PAUSE SYMBOL|HELM SYMBOL|HELMET WITH WHITE CROSS|HERB",
    "HERMITIAN CONJUGATE MATRIX|HIBISCUS|HIGH BRIGHTNESS SYMBOL|HIGH OCTET PRESET|HIGH VOLTAGE SIGN|HIGH-HEELED SHOE",
    "HIGH-SPEED TRAIN|HIGH-SPEED TRAIN WITH BULLET NOSE|HIKING BOOT|HINDU TEMPLE|HIPPOPOTAMUS|HIRAGANA DIGRAPH YORI",
    "HIRAGANA ITERATION MARK|HIRAGANA VOICED ITERATION MARK|HISTORIC SITE|HOCHO|HOLE|HOMOTHETIC|HONEY POT|HONEYBEE|HOOK",
    "HOP|HORSE|HORSE FACE|HORSE RACING|HOSPITAL|HOT BEVERAGE|HOT DOG|HOT PEPPER|HOT SPRINGS|HOTEL|HOURGLASS",
    "HOURGLASS WITH FLOWING SAND|HOUSE|HOUSE BUILDING|HOUSE BUILDINGS|HOUSE WITH GARDEN|HRYVNIA SIGN|HT|HTJ|HTS",
    "HUGGING FACE|HUNDRED POINTS SYMBOL|HUSHED FACE|HUT|HYGIEA|HYPHEN|HYPHEN BULLET|HYPHEN-MINUS|HYPHENATION POINT",
    "HYSTERESIS SYMBOL|I LOVE YOU HAND SIGN|ICE CREAM|ICE CUBE|ICE HOCKEY STICK AND PUCK|ICE SKATE|IDENTICAL TO",
    "IDENTIFICATION CARD|IMAGE OF|IMAGE OF OR APPROXIMATELY EQUAL TO|IMP|INBOX TRAY|INCOMING ENVELOPE",
    "INCREASE FONT SIZE SYMBOL|INCREMENT|IND|INDEX|INDEX POINTING AT THE VIEWER|INDIAN RUPEE SIGN|INFINITY",
    "INHIBIT ARABIC FORM SHAPING|INHIBIT SYMMETRIC SWAPPING|INPUT SYMBOL FOR LATIN CAPITAL LETTERS",
    "INPUT SYMBOL FOR LATIN LETTERS|INPUT SYMBOL FOR LATIN SMALL LETTERS|INPUT SYMBOL FOR NUMBERS",
    "INPUT SYMBOL FOR SYMBOLS|INSERTION SYMBOL|INTEGRAL|INTEGRAL EXTENSION|INTERCALATE|INTERLOCKED FEMALE AND MALE SIGN",
    "INTERROBANG|INTERSECTION|INVERSE BULLET|INVERSE WHITE CIRCLE|INVISIBLE PLUS|INVISIBLE SEPARATOR|INVISIBLE TIMES",
    "IZAKAYA LANTERN|JACK-O-LANTERN|JAR|JEANS|JIGSAW PUZZLE PIECE|JOYSTICK|JUGGLING|JUNO|JUPITER|KAABA|KANGAROO",
    "KATAKANA DIGRAPH KOTO|KATAKANA ITERATION MARK|KATAKANA MIDDLE DOT|KATAKANA VOICED ITERATION MARK",
    "KATAKANA-HIRAGANA DOUBLE HYPHEN|KATAKANA-HIRAGANA PROLONGED SOUND MARK|KATAKANA-HIRAGANA SEMI-VOICED SOUND MARK",
    "KATAKANA-HIRAGANA VOICED SOUND MARK|KELVIN SIGN|KEY|KEYBOARD|KEYBOARD AND MOUSE|KEYCAP TEN|KIMONO|KIP SIGN|KISS",
    "KISS MARK|KISSING CAT FACE WITH CLOSED EYES|KISSING FACE|KISSING FACE WITH CLOSED EYES",
    "KISSING FACE WITH SMILING EYES|KITE|KIWIFRUIT|KNEELING PERSON|KNOT|KOALA|KRONOS|L B BAR SYMBOL|LAB COAT|LABEL",
    "LACROSSE STICK AND BALL|LADDER|LADY BEETLE|LARGE BLUE CIRCLE|LARGE BLUE DIAMOND|LARGE CIRCLE|LARGE ORANGE DIAMOND",
    "LARGE RED CIRCLE|LARI SIGN|LAST QUARTER MOON|LAST QUARTER MOON SYMBOL|LAST QUARTER MOON WITH FACE",
    "LATIN CAPITAL LIGATURE IJ|LATIN CAPITAL LIGATURE OE|LATIN CROSS|LEAF FLUTTERING IN WIND|LEAFY GREEN|LEDGER",
    "LEFT-FACING FIST|LEFT-HANDED INTERLACED PENTAGRAM|LEFT-POINTING ANGLE BRACKET",
    "LEFT-POINTING DOUBLE ANGLE QUOTATION MARK|LEFT-POINTING MAGNIFYING GLASS|LEFT-SHADED WHITE RIGHTWARDS ARROW",
    "LEFT-TO-RIGHT EMBEDDING|LEFT-TO-RIGHT ISOLATE|LEFT-TO-RIGHT MARK|LEFT-TO-RIGHT OVERRIDE|LEG|LEMON|LEO|LEOPARD",
    "LEVEL SLIDER|LF|LIBRA|LIGHTNING|LIGHTNING MOOD|LIGHTNING MOOD BUBBLE|LINE FEED|LINE SEPARATOR|LINE TABULATION",
    "LINE TABULATION SET|LINK SYMBOL|LINKED PAPERCLIPS|LION FACE|LIPS|LIPSTICK|LIRA SIGN|LIVRE TOURNOIS SIGN|LIZARD|LLAMA",
    "LOBSTER|LOCK|LOCK WITH INK PEN|LOCKING-SHIFT ONE|LOCKING-SHIFT ZERO|LOGICAL AND|LOGICAL OR|LOLLIPOP|LOTION BOTTLE",
    "LOTUS|LOUDLY CRYING FACE|LOVE HOTEL|LOVE LETTER|LOW ASTERISK|LOW BATTERY|LOW BRIGHTNESS SYMBOL",
    "LOW DOUBLE PRIME QUOTATION MARK|LOW LINE|LOZENGE|LRE|LRI|LRM|LRO|LUGGAGE|LUNGS|LYING FACE|MACRON|MAGE|MAGIC WAND",
    "MAGNET|MALE AND FEMALE SIGN|MALE SIGN|MALE WITH STROKE AND MALE AND FEMALE SIGN|MALE WITH STROKE SIGN|MALTESE CROSS",
    "MAMMOTH|MAN|MANAT SIGN|MANGO|MANS SHOE|MANTELPIECE CLOCK|MANUAL WHEELCHAIR|MAP SYMBOL FOR LIGHTHOUSE|MAPLE LEAF",
    "MARRIAGE SYMBOL|MARTIAL ARTS UNIFORM|MASCULINE ORDINAL INDICATOR|MASK WORK SYMBOL|MASU MARK|MATE DRINK|MAXIMIZE",
    "MEASURED ANGLE|MEASURED BY|MEAT ON BONE|MECHANICAL ARM|MECHANICAL LEG|MELON|MELTING FACE|MEMO",
    "MENORAH WITH NINE BRANCHES|MENS SYMBOL|MERCURY|MERPERSON|MESSAGE WAITING|METRO|MICR DASH SYMBOL|MICR ON US SYMBOL",
    "MICRO SIGN|MICROBE|MICROPHONE|MICROSCOPE|MIDDLE DOT|MIDLINE HORIZONTAL ELLIPSIS|MILITARY HELMET|MILITARY MEDAL",
    "MILKY WAY|MILL SIGN|MINIBUS|MINIDISC|MINIMIZE|MINUS SIGN|MINUS TILDE|MINUS-OR-PLUS SIGN|MIRROR|MIRROR BALL|MMSP",
    "MOBILE PHONE|MOBILE PHONE OFF|MOBILE PHONE WITH RIGHTWARDS ARROW AT LEFT|MODELS|MODERN PENTATHLON|MONEY BAG",
    "MONEY WITH WINGS|MONEY-MOUTH FACE|MONKEY|MONKEY FACE|MONOGRAM FOR YANG|MONOGRAM FOR YIN|MONORAIL|MONOSTABLE SYMBOL",
    "MOOD BUBBLE|MOON CAKE|MOON VIEWING CEREMONY|MOSQUE|MOSQUITO|MOTHER CHRISTMAS|MOTOR BOAT|MOTOR SCOOTER",
    "MOTORIZED WHEELCHAIR|MOTORWAY|MOUNT FUJI|MOUNTAIN|MOUNTAIN BICYCLIST|MOUNTAIN CABLEWAY|MOUNTAIN RAILWAY|MOUSE",
    "MOUSE FACE|MOUSE TRAP|MOUTH|MOVIE CAMERA|MOYAI|MUCH GREATER-THAN|MUCH LESS-THAN|MULTIMAP|MULTIPLE MUSICAL NOTES",
    "MULTIPLICATION SIGN|MULTIPLICATION X|MULTISET|MULTISET MULTIPLICATION|MULTISET UNION|MUSHROOM|MUSIC FLAT SIGN",
    "MUSIC NATURAL SIGN|MUSIC SHARP SIGN|MUSICAL KEYBOARD|MUSICAL KEYBOARD WITH JACKS|MUSICAL NOTE|MUSICAL SCORE|MW|NABLA",
    "NAIL POLISH|NAIRA SIGN|NAK|NAME BADGE|NAND|NARROW NO-BREAK SPACE|NATIONAL DIGIT SHAPES|NATIONAL PARK|NAUSEATED FACE",
    "NAZAR AMULET|NBH|NBSP|NECKTIE|NEGATED DOUBLE VERTICAL BAR DOUBLE RIGHT TURNSTILE|NEGATIVE ACKNOWLEDGE",
    "NEGATIVE CIRCLED DIGIT ZERO|NEL|NEPTUNE|NEPTUNE FORM TWO|NERD FACE|NESSUS|NEST WITH EGGS|NESTING DOLLS|NEUTER",
    "NEUTRAL FACE|NEW LINE|NEW MOON SYMBOL|NEW MOON WITH FACE|NEW SHEQEL SIGN|NEWLINE LEFT|NEWLINE RIGHT|NEWSPAPER",
    "NEXT LINE|NEXT PAGE|NIGHT WITH STARS|NINJA|NL|NNBSP|NO-BREAK SPACE|NOMINAL DIGIT SHAPES|NON-BREAKING HYPHEN",
    "NON-POTABLE WATER SYMBOL|NOR|NORDIC MARK SIGN|NORMAL SUBGROUP OF|NORMAL SUBGROUP OF OR EQUAL TO",
    "NORTHEAST-POINTING AIRPLANE|NOSE|NOTCHED LEFT SEMICIRCLE WITH THREE DOTS",
    "NOTCHED LOWER RIGHT-SHADOWED WHITE RIGHTWARDS ARROW|NOTCHED RIGHT SEMICIRCLE WITH THREE DOTS",
    "NOTCHED UPPER RIGHT-SHADOWED WHITE RIGHTWARDS ARROW|NOTE|NOTE PAD|NOTE PAGE|NOTEBOOK|NOTEBOOK WITH DECORATIVE COVER",
    "NUL|NULL|NUMERO SIGN|NUT AND BOLT|OBJECT REPLACEMENT CHARACTER|OBSERVER EYE SYMBOL|OCTAGONAL SIGN|OCTOPUS|ODEN",
    "OFFICE BUILDING|OGONEK|OHM SIGN|OIL DRUM|OK HAND SIGN|OLD KEY|OLD PERSONAL COMPUTER|OLDER ADULT|OLDER MAN",
    "OLDER WOMAN|OLIVE|OM SYMBOL|ON WITH EXCLAMATION MARK WITH LEFT RIGHT ARROW ABOVE|ONCOMING AUTOMOBILE|ONCOMING BUS",
    "ONCOMING FIRE ENGINE|ONCOMING POLICE CAR|ONCOMING TAXI|ONE BUTTON MOUSE|ONE DOT LEADER|ONE-PIECE SWIMSUIT|ONION",
    "OPEN-CIRCUIT-OUTPUT H-TYPE SYMBOL|OPEN-CIRCUIT-OUTPUT L-TYPE SYMBOL|OPEN-OUTLINED RIGHTWARDS ARROW",
    "OPERATING SYSTEM COMMAND|OPHIUCHUS|OPPOSITION|OPTICAL DISC|OPTICAL DISC ICON|OPTION KEY|ORANGE BOOK|ORANGE HEART",
    "ORANGUTAN|ORIGINAL OF|ORTHODOX CROSS|OSC|OTTER|OUNCE SIGN|OUTBOX TRAY|OUTLINED BLACK STAR|OUTLINED GREEK CROSS",
    "OUTLINED LATIN CROSS|OUTLINED WHITE STAR|OVERHEATED FACE|OVERLAP|OVERLAPPING BLACK SQUARES",
    "OVERLAPPING WHITE AND BLACK SQUARES|OVERLAPPING WHITE SQUARES|OVERLINE|OWL|OX|OYSTER|PACKAGE|PAD|PADDING CHARACTER",
    "PAGE|PAGE FACING UP|PAGE WITH CIRCLED TEXT|PAGE WITH CURL|PAGER|PAGES|PAGODA|PALLAS|PALM DOWN HAND|PALM TREE",
    "PALM UP HAND|PALMS UP TOGETHER|PANCAKES|PANDA FACE|PAPERCLIP|PARACHUTE|PARAGRAPH SEPARATOR|PARALLEL TO|PARROT",
    "PART ALTERNATION MARK|PARTIAL DIFFERENTIAL|PARTIAL LINE BACKWARD|PARTIAL LINE DOWN|PARTIAL LINE FORWARD",
    "PARTIAL LINE UP|PARTIALLY-RECYCLED PAPER SYMBOL|PARTY POPPER|PASSED SYMBOL|PASSENGER SHIP",
    "PASSIVE-PULL-DOWN-OUTPUT SYMBOL|PASSIVE-PULL-UP-OUTPUT SYMBOL|PASSPORT CONTROL|PAW PRINTS|PDF|PDI|PEACE SYMBOL|PEACH",
    "PEACOCK|PEANUTS|PEAR|PEDESTRIAN|PEN OVER STAMPED ENVELOPE|PENCIL|PENGUIN|PENSIVE FACE|PENTAGRAM|PEOPLE HUGGING",
    "PER MILLE SIGN|PER SIGN|PER TEN THOUSAND SIGN|PERCENT SIGN|PERFORMING ARTS|PERMANENT PAPER SIGN|PERSEVERING FACE",
    "PERSONAL COMPUTER|PERSPECTIVE|PESETA SIGN|PESO SIGN|PETRI DISH|PHOLUS|PICK|PICKUP TRUCK|PIE|PIG|PIG FACE|PIG NOSE",
    "PILCROW SIGN|PILE OF POO|PILL|PINATA|PINCHED FINGERS|PINCHING HAND|PINE DECORATION|PINEAPPLE|PINWHEEL STAR|PISCES",
    "PISTOL|PITCHFORK|PLACARD|PLACE OF INTEREST SIGN|PLACE OF WORSHIP|PLANCK CONSTANT|PLANCK CONSTANT OVER TWO PI",
    "PLAYGROUND SLIDE|PLD|PLU|PLUNGER|PLUS SIGN|PLUS-MINUS SIGN|PLUTO|PLUTO FORM FIVE|PLUTO FORM FOUR|PLUTO FORM THREE",
    "PLUTO FORM TWO|PM|POCKET CALCULATOR|POLICE CAR|POLICE CARS REVOLVING LIGHT|POLICE OFFICER|POODLE",
    "POP DIRECTIONAL FORMATTING|POP DIRECTIONAL ISOLATE|POPCORN|PORTABLE STEREO|POSEIDON|POSITION INDICATOR|POSTAL HORN",
    "POSTAL MARK|POSTAL MARK FACE|POSTBOX|POT OF FOOD|POTABLE WATER SYMBOL|POTATO|POTTED PLANT|POUCH|POULTRY LEG",
    "POUND SIGN|POURING LIQUID|POUTING CAT FACE|POUTING FACE|POWER ON SYMBOL|POWER ON-OFF SYMBOL|POWER SLEEP SYMBOL",
    "POWER SYMBOL|PRAYER BEADS|PRECEDES|PRECEDES BUT NOT EQUIVALENT TO|PRECEDES OR EQUAL TO|PRECEDES OR EQUIVALENT TO",
    "PRECEDES UNDER RELATION|PREGNANT MAN|PREGNANT PERSON|PREGNANT WOMAN|PRESCRIPTION TAKE|PRETZEL|PREVIOUS PAGE|PRIME",
    "PRINCE|PRINCESS|PRINT SCREEN SYMBOL|PRINTER|PRINTER ICON|PRIVACY MESSAGE|PRIVATE USE ONE|PRIVATE USE TWO",
    "PRIVATE USE-1|PRIVATE USE-2|PROBING CANE|PROHIBITED SIGN|PROJECTIVE|PROPERTY LINE|PROPORTION|PROPORTIONAL TO",
    "PROSERPINA|PU1|PU2|PUBLIC ADDRESS LOUDSPEAKER|PUNCTUATION SPACE|PURPLE HEART|PURSE|PUSHPIN",
    "PUT LITTER IN ITS PLACE SYMBOL|QUADRANT LOWER LEFT|QUADRANT LOWER RIGHT|QUADRUPLE PRIME|QUARTER NOTE",
    "QUESTION EXCLAMATION MARK|QUESTION MARK|QUESTIONED EQUAL TO|QUINCUNX|QUOTATION MARK|RABBIT|RABBIT FACE|RACCOON",
    "RACING CAR|RACING MOTORCYCLE|RADICAL SYMBOL BOTTOM|RADIO|RADIO BUTTON|RADIOACTIVE SIGN|RAILWAY CAR|RAILWAY TRACK",
    "RAIN|RAINBOW|RAM|RAT|RATIO|RAZOR|RECEIPT|RECORD SEPARATOR|RECREATIONAL VEHICLE|RECYCLED PAPER SYMBOL|RED APPLE",
    "RED GIFT ENVELOPE|REFERENCE MARK|REGISTERED SIGN|RELIEVED FACE|REMINDER RIBBON|REPLACEMENT CHARACTER|RESPONSE",
    "RESTRICTED LEFT ENTRY-1|RESTRICTED LEFT ENTRY-2|RESTROOM|RETURN LEFT|RETURN RIGHT|RETURN SYMBOL|REVERSE INDEX",
    "REVERSE LINE FEED|REVERSE SOLIDUS|REVERSE TILDE OPERATOR ABOVE LEFTWARDS ARROW",
    "REVERSE TILDE OPERATOR ABOVE RIGHTWARDS ARROW|REVOLVING HEARTS|RHINOCEROS|RI|RIBBON|RICE BALL|RICE CRACKER|RIFLE",
    "RIGHT-FACING FIST|RIGHT-HANDED INTERLACED PENTAGRAM|RIGHT-POINTING ANGLE BRACKET",
    "RIGHT-POINTING DOUBLE ANGLE QUOTATION MARK|RIGHT-POINTING MAGNIFYING GLASS|RIGHT-SHADED WHITE RIGHTWARDS ARROW",
    "RIGHT-TO-LEFT EMBEDDING|RIGHT-TO-LEFT ISOLATE|RIGHT-TO-LEFT MARK|RIGHT-TO-LEFT OVERRIDE|RING|RING ABOVE|RING BUOY",
    "RING EQUAL TO|RING IN EQUAL TO|RING OPERATOR|RINGED PLANET|RINGING BELL|RLE|RLI|RLM|RLO|ROASTED SWEET POTATO",
    "ROBOT FACE|ROCK|ROCKET|ROLL OF PAPER|ROLLED-UP NEWSPAPER|ROLLER COASTER|ROLLER SKATE|ROLLING ON THE FLOOR LAUGHING",
    "ROOSTER|ROSE|ROSETTE|ROTATED CAPITAL Q|ROTATED FLORAL HEART BULLET|ROTATED HEAVY BLACK HEART BULLET",
    "ROTATED LIGHT FOUR POINTED BLACK CUSP|ROTATED WHITE FOUR POINTED CUSP|ROUND PUSHPIN|ROWBOAT|RS|RUBLE SIGN",
    "RUGBY FOOTBALL|RUNNER|RUNNING SHIRT WITH SASH|RUPEE SIGN|SAFETY PIN|SAFETY VEST|SAGITTARIUS|SAILBOAT",
    "SAKE BOTTLE AND CUP|SALT SHAKER|SALTIRE|SALUTING FACE|SANDWICH|SARI|SATELLITE|SATELLITE ANTENNA|SATURN|SAUROPOD",
    "SAXOPHONE|SCALES|SCARF|SCHOOL|SCHOOL SATCHEL|SCI|SCOOTER|SCORPION|SCORPIUS|SCREEN|SCREWDRIVER|SCRIPT SMALL E",
    "SCRIPT SMALL G|SCRIPT SMALL L|SCRIPT SMALL O|SCROLL|SCRUPLE|SEAL|SEAT|SECOND PLACE MEDAL|SECTION SIGN|SECTOR|SEDNA",
    "SEE-NO-EVIL MONKEY|SEEDLING|SEGMENT|SELFIE|SEMICOLON|SEMISEXTILE|SEPARATED SYMBOL",
    "SERIOUS FACE WITH SYMBOLS COVERING MOUTH|SERVICE MARK|SESQUIQUADRATE|SET MINUS|SET TRANSMIT STATE|SEWING NEEDLE",
    "SEXTILE|SGC|SHADOWED WHITE CIRCLE|SHADOWED WHITE LATIN CROSS|SHADOWED WHITE STAR|SHALLOW PAN OF FOOD|SHAMROCK|SHARK",
    "SHAVED ICE|SHEEP|SHIELD|SHIFT IN|SHIFT OUT|SHINTO SHRINE|SHIP|SHOCKED FACE WITH EXPLODING HEAD|SHOOTING STAR",
    "SHOPPING BAGS|SHOPPING TROLLEY|SHORT BACKSLANTED SOUTH ARROW|SHORT BENT ARROW POINTING DOWNWARDS THEN NORTH EAST",
    "SHORT SLANTED NORTH ARROW|SHORTCAKE|SHORTS|SHOULDERED OPEN BOX|SHOWER|SHRIMP|SHRUG|SHY|SI|SIGN OF THE HORNS",
    "SILHOUETTE OF JAPAN|SINE WAVE|SINGLE-SHIFT-2|SINGLE-SHIFT-3|SIX PETALLED BLACK AND WHITE FLORETTE",
    "SIX POINTED BLACK STAR|SIX POINTED STAR WITH MIDDLE DOT|SIX-PER-EM SPACE|SIXTEEN POINTED ASTERISK|SKATEBOARD",
    "SKI AND SKI BOOT|SKIER|SKULL|SKULL AND CROSSBONES|SKUNK|SLANTED NORTH ARROW WITH HOOKED HEAD",
    "SLANTED NORTH ARROW WITH HORIZONTAL TAIL|SLED|SLEEPING ACCOMMODATION|SLEEPING FACE|SLEEPING SYMBOL|SLEEPY FACE",
    "SLEUTH OR SPY|SLICE OF PIZZA|SLIGHTLY FROWNING FACE|SLIGHTLY SMILING FACE|SLOPE|SLOT MACHINE|SLOTH|SMILE",
    "SMILING CAT FACE WITH HEART-SHAPED EYES|SMILING CAT FACE WITH OPEN MOUTH|SMIRKING FACE|SMOKING SYMBOL|SNAIL|SNAKE",
    "SNEEZING FACE|SNOW CAPPED MOUNTAIN|SNOWBOARDER|SNOWFLAKE|SNOWMAN|SNOWMAN WITHOUT SNOW|SO|SOCCER BALL|SOCKS",
    "SOFT HYPHEN|SOFT ICE CREAM|SOFT SHELL FLOPPY DISK|SOFTBALL|SOFTWARE-FUNCTION SYMBOL|SOH|SOLIDUS|SOM SIGN",
    "SOON WITH RIGHTWARDS ARROW ABOVE|SOS|SOUND RECORDING COPYRIGHT|SP|SPA|SPACE|SPAGHETTI|SPARKLE|SPARKLES",
    "SPARKLING HEART|SPEAK-NO-EVIL MONKEY|SPEAKER|SPEAKER WITH CANCELLATION STROKE|SPEAKER WITH ONE SOUND WAVE",
    "SPEAKER WITH THREE SOUND WAVES|SPEAKING HEAD IN SILHOUETTE|SPEECH BALLOON|SPEEDBOAT|SPESMILO SIGN|SPHERICAL ANGLE",
    "SPIDER|SPIDER WEB|SPIRAL CALENDAR PAD|SPIRAL NOTE PAD|SPIRAL SHELL|SPLASHING SWEAT SYMBOL|SPONGE|SPOOL OF THREAD",
    "SPOON|SPORTS MEDAL|SPOUTING WHALE|SQUAT BLACK RIGHTWARDS ARROW|SQUID|SS2|SS3|SSA|ST|STADIUM|STAFF OF AESCULAPIUS",
    "STAFF OF HERMES|STAMPED ENVELOPE|STANDING PERSON|STATION|STATUE OF LIBERTY|STEAM LOCOMOTIVE|STEAMING BOWL",
    "STETHOSCOPE|STOCK CHART|STOPWATCH|STRAIGHT RULER|STRAIGHTNESS|STRAWBERRY|STRESS OUTLINED WHITE STAR",
    "STRICTLY EQUIVALENT TO|STRING TERMINATOR|STS|STUDIO MICROPHONE|STUFFED FLATBREAD|STUPA|STX|SUB|SUBSET OF",
    "SUBSET OF OR EQUAL TO|SUBSET OF WITH NOT EQUAL TO|SUBSTITUTE|SUCCEEDS|SUCCEEDS BUT NOT EQUIVALENT TO",
    "SUCCEEDS OR EQUAL TO|SUCCEEDS OR EQUIVALENT TO|SUCCEEDS UNDER RELATION|SUMMATION BOTTOM|SUMMATION TOP|SUN",
    "SUN BEHIND CLOUD|SUN WITH FACE|SUNFLOWER|SUNRISE|SUNRISE OVER MOUNTAINS|SUNSET OVER BUILDINGS|SUPERHERO|SUPERSET OF",
    "SUPERSET OF OR EQUAL TO|SUPERSET OF WITH NOT EQUAL TO|SUPERVILLAIN|SURFACE INTEGRAL|SURFER|SUSHI|SUSPENSION RAILWAY",
    "SWAN|SWIMMER|SWUNG DASH|SYMBOL FOR MARKS CHAPTER|SYMBOL FOR SAMARITAN SOURCE|SYMBOL FOR TYPE A ELECTRONICS|SYMMETRY",
    "SYN|SYNAGOGUE|SYNCHRONOUS IDLE|SYRINGE|T-REX|T-SHIRT|TAB|TABLE TENNIS PADDLE AND BALL|TACO|TAKEOUT BOX|TAMALE",
    "TANABATA TREE|TANGERINE|TAPE CARTRIDGE|TAPE DRIVE|TAURUS|TAXI|TEACUP WITHOUT HANDLE|TEAPOT|TEAR-OFF CALENDAR",
    "TEARDROP-BARBED RIGHTWARDS ARROW|TEARDROP-SPOKED ASTERISK|TEDDY BEAR|TELESCOPE|TELEVISION|TENGE SIGN",
    "TENNIS RACQUET AND BALL|TENT|TEST TUBE|THERE DOES NOT EXIST|THERE EXISTS|THEREFORE|THERMOMETER|THIN SPACE",
    "THINKING FACE|THIRD PLACE MEDAL|THONG SANDAL|THOUGHT BALLOON|THREE-PER-EM SPACE|THUMBS DOWN SIGN|THUMBS UP SIGN",
    "THUNDER CLOUD AND RAIN|THUNDERSTORM|TICKET|TIGER|TIGER FACE|TIGHT TRIFOLIATE SNOWFLAKE|TILDE|TILDE OPERATOR",
    "TILDE OPERATOR ABOVE LEFTWARDS ARROW|TIMER CLOCK|TIRED FACE|TIRONIAN SIGN ET|TOILET|TOKYO TOWER|TOMATO|TONGUE",
    "TOOLBOX|TOOTH|TOOTHBRUSH|TORTOISE SHELL BRACKETED LATIN CAPITAL LETTER S|TOTAL RUNOUT|TRACKBALL|TRACTOR",
    "TRADE MARK SIGN|TRAIN|TRAM|TRAM CAR|TRANSPLUTO|TRIANGLE WITH ROUNDED CORNERS|TRIANGLE-HEADED RIGHTWARDS ARROW",
    "TRIANGULAR BULLET|TRIANGULAR FLAG ON POST|TRIANGULAR RULER|TRICOLON|TRIDENT EMBLEM|TRIPLE INTEGRAL|TRIPLE PRIME",
    "TRIPLE TILDE|TRIPLE VERTICAL BAR RIGHT TURNSTILE|TROLL|TROLLEYBUS|TROPHY|TROPICAL DRINK|TROPICAL FISH|TRUE",
    "TRUE LIGHT MOON ARTA|TRUMPET|TUGRIK SIGN|TULIP|TUMBLER GLASS|TURKEY|TURKISH LIRA SIGN|TURTLE",
    "TWELVE POINTED BLACK STAR|TWISTED RIGHTWARDS ARROWS|UMBRELLA|UMBRELLA ON GROUND|UMBRELLA WITH RAIN DROPS",
    "UNAMUSED FACE|UNCERTAINTY SIGN|UNDERTIE|UNDO SYMBOL|UNICORN FACE|UNION|UNIT SEPARATOR|UNITED SYMBOL",
    "UNIVERSAL RECYCLING SYMBOL|UNMARRIED PARTNERSHIP SYMBOL|UP ARROWHEAD|UP ARROWHEAD BETWEEN TWO HORIZONTAL BARS",
    "UP ARROWHEAD IN A RECTANGLE BOX|UP RIGHT DIAGONAL ELLIPSIS|UP TACK|UPSIDE-DOWN FACE|URANUS|US|VAMPIRE|VERSICLE",
    "VERY MUCH GREATER-THAN|VERY MUCH LESS-THAN|VESTA|VIBRATION MODE|VICTORY HAND|VIDEO CAMERA|VIDEO GAME|VIDEOCASSETTE",
    "VIEWDATA SQUARE|VIOLIN|VIRGO|VOLCANO|VOLLEYBALL|VOLUME INTEGRAL|VS1|VS15|VS16|VS2|VT|VTS|VULCANUS|WAFFLE",
    "WANING CRESCENT MOON SYMBOL|WANING GIBBOUS MOON SYMBOL|WARNING SIGN|WASTEBASKET|WATCH|WATER BUFFALO|WATER CLOSET",
    "WATER POLO|WATER WAVE|WATERMELON|WAVE ARROW POINTING DIRECTLY LEFT|WAVE DASH|WAVING BLACK FLAG|WAVING HAND SIGN",
    "WAVING WHITE FLAG|WAVY DASH|WAVY LINE|WAXING CRESCENT MOON SYMBOL|WAXING GIBBOUS MOON SYMBOL|WEARY CAT FACE",
    "WEARY FACE|WEDDING|WEDGE-TAILED RIGHTWARDS ARROW|WEIERSTRASS ELLIPTIC FUNCTION|WEIGHT LIFTER|WEST SYRIAC CROSS|WHALE",
    "WHEEL|WHEEL OF DHARMA|WHEELCHAIR SYMBOL|WHITE-FEATHERED RIGHTWARDS ARROW|WILTED FLOWER|WIND BLOWING FACE|WIND CHIME",
    "WINDOW|WINE GLASS|WINKING FACE|WIRED KEYBOARD|WJ|WOLF FACE|WOMAN|WOMAN WITH BUNNY EARS|WOMANS BOOTS|WOMANS CLOTHES",
    "WOMANS HAT|WOMANS SANDAL|WOMENS SYMBOL|WON SIGN|WOOD|WORD JOINER|WORLD MAP|WORM|WORRIED FACE|WRAPPED PRESENT",
    "WREATH PRODUCT|WRENCH|WRESTLERS|WRITING HAND|X IN A RECTANGLE BOX|X-RAY|XOR|YAWNING FACE|YELLOW HEART|YEN SIGN",
    "YIN YANG|YO-YO|Z NOTATION BAG MEMBERSHIP|ZEBRA FACE|ZERO WIDTH JOINER|ZERO WIDTH NO-BREAK SPACE",
    "ZERO WIDTH NON-JOINER|ZERO WIDTH SPACE|ZEUS|ZIPPER-MOUTH FACE|ZOMBIE|ZWJ|ZWNBSP|ZWNJ|ZWSP"]),
  ("ANTICLOCKWISE ", [
    "CONTOUR INTEGRAL|DOWNWARDS AND UPWARDS OPEN CIRCLE ARROWS|GAPPED CIRCLE ARROW|OPEN CIRCLE ARROW|TOP SEMICIRCLE ARROW",
    "TRIANGLE-HEADED BOTTOM U-SHAPED ARROW|TRIANGLE-HEADED LEFT U-SHAPED ARROW|TRIANGLE-HEADED OPEN CIRCLE ARROW",
    "TRIANGLE-HEADED RIGHT U-SHAPED ARROW|TRIANGLE-HEADED TOP U-SHAPED ARROW"]),
  ("APL FUNCTIONAL SYMBOL ", [
    "ALPHA|ALPHA UNDERBAR|BACKSLASH BAR|COMMA BAR|DEL DIAERESIS|DEL STILE|DEL TILDE|DELTA STILE|DELTA UNDERBAR",
    "DIAMOND UNDERBAR|DOWN CARET TILDE|DOWN SHOE STILE|DOWN TACK JOT|DOWN TACK UNDERBAR|DOWNWARDS VANE|EPSILON UNDERBAR",
    "GREATER-THAN DIAERESIS|I-BEAM|IOTA|IOTA UNDERBAR|JOT DIAERESIS|JOT UNDERBAR|LEFT SHOE STILE|LEFTWARDS VANE|OMEGA",
    "OMEGA UNDERBAR|QUAD|QUOTE QUAD|QUOTE UNDERBAR|RHO|RIGHTWARDS VANE|SEMICOLON UNDERBAR|SLASH BAR|SQUISH QUAD",
    "STAR DIAERESIS|STILE TILDE|TILDE DIAERESIS|UP CARET TILDE|UP SHOE JOT|UP TACK DIAERESIS|UP TACK JOT|UP TACK OVERBAR",
    "UPWARDS VANE|ZILDE"]),
  ("APL FUNCTIONAL SYMBOL CIRCLE ", ["BACKSLASH|DIAERESIS|JOT|STAR|STILE|UNDERBAR"]),
  ("APL FUNCTIONAL SYMBOL QUAD ", [
    "BACKSLASH|CIRCLE|COLON|DEL|DELTA|DIAMOND|DIVIDE|DOWN CARET|DOWNWARDS ARROW|EQUAL|GREATER-THAN|JOT|LEFTWARDS ARROW",
    "LESS-THAN|NOT EQUAL|QUESTION|RIGHTWARDS ARROW|SLASH|UP CARET|UPWARDS ARROW"]),
  ("BALLOT BOX WITH ", ["BALLOT|BOLD CHECK|BOLD SCRIPT X|CHECK|LIGHT X|SCRIPT X|X"]),
  ("BLACK ", [
    "CENTRE WHITE STAR|CIRCLE|CIRCLE FOR RECORD|CIRCLE WITH TWO WHITE DOTS|CIRCLE WITH WHITE DOT RIGHT|CLUB SUIT",
    "CROSS ON SHIELD|DIAMOND|DIAMOND CENTRED|DIAMOND MINUS WHITE X|DIAMOND ON CROSS|DIAMOND SUIT",
    "DOWN POINTING BACKHAND INDEX|DOWN-POINTING DOUBLE TRIANGLE|DOWN-POINTING SMALL TRIANGLE|DOWN-POINTING TRIANGLE",
    "DOWNWARDS EQUILATERAL ARROWHEAD|DRAUGHTS KING|DRAUGHTS MAN|DROPLET|FLAG|FLORETTE|FOLDER|FOUR POINTED STAR",
    "HARD SHELL FLOPPY DISK|HEART|HEART SUIT|HEXAGON|HORIZONTAL ELLIPSE|LARGE CIRCLE|LARGE SQUARE|LEFT LANE MERGE",
    "LEFT POINTING BACKHAND INDEX|LEFT POINTING INDEX|LEFT-POINTING DOUBLE TRIANGLE",
    "LEFT-POINTING DOUBLE TRIANGLE WITH VERTICAL BAR|LEFT-POINTING POINTER|LEFT-POINTING SMALL TRIANGLE",
    "LEFT-POINTING TRIANGLE|LEFTWARDS BULLET|LEFTWARDS EQUILATERAL ARROWHEAD|LOWER LEFT TRIANGLE|LOWER RIGHT TRIANGLE",
    "MOON LILITH|NIB|OCTAGON|PARALLELOGRAM|PENNANT|PENTAGON|PUSHPIN|QUESTION MARK ORNAMENT|RECTANGLE",
    "RIGHT POINTING BACKHAND INDEX|RIGHT POINTING INDEX|RIGHTWARDS ARROW|RIGHTWARDS ARROWHEAD|RIGHTWARDS BULLET",
    "RIGHTWARDS EQUILATERAL ARROWHEAD|ROSETTE|SAFETY SCISSORS|SCISSORS|SHOGI PIECE|SKULL AND CROSSBONES|SMALL DIAMOND",
    "SMALL LOZENGE|SMALL SQUARE|SMALL STAR|SMILING FACE|SNOWMAN|SPADE SUIT|SQUARE|SQUARE BUTTON|SQUARE CENTRED",
    "SQUARE FOR STOP|STAR|SUN WITH RAYS|TELEPHONE|TOUCHTONE TELEPHONE|TRUCK|TWO-WAY LEFT WAY TRAFFIC",
    "UNIVERSAL RECYCLING SYMBOL|UP POINTING BACKHAND INDEX|UP-POINTING DOUBLE TRIANGLE|UP-POINTING SMALL TRIANGLE",
    "UP-POINTING TRIANGLE|UPPER LEFT TRIANGLE|UPPER RIGHT TRIANGLE|UPWARDS EQUILATERAL ARROWHEAD|VERTICAL ELLIPSE",
    "VERTICAL RECTANGLE|VERY SMALL SQUARE"]),
  ("BLACK CHESS ", ["BISHOP|KING|KNIGHT|PAWN|QUEEN|ROOK"]),
  ("BLACK CURVED ", [
    "DOWNWARDS AND LEFTWARDS ARROW|DOWNWARDS AND RIGHTWARDS ARROW|LEFTWARDS AND DOWNWARDS ARROW",
    "LEFTWARDS AND UPWARDS ARROW|RIGHTWARDS AND DOWNWARDS ARROW|RIGHTWARDS AND UPWARDS ARROW|UPWARDS AND LEFTWARDS ARROW",
    "UPWARDS AND RIGHTWARDS ARROW"]),
  ("BLACK MEDIUM ", [
    "DIAMOND|DOWN-POINTING TRIANGLE|DOWN-POINTING TRIANGLE CENTRED|LEFT-POINTING TRIANGLE|LEFT-POINTING TRIANGLE CENTRED",
    "LOZENGE|RIGHT-POINTING TRIANGLE|RIGHT-POINTING TRIANGLE CENTRED|SMALL SQUARE|SQUARE|UP-POINTING TRIANGLE",
    "UP-POINTING TRIANGLE CENTRED"]),
  ("BLACK RIGHT-POINTING ", [
    "DOUBLE TRIANGLE|DOUBLE TRIANGLE WITH VERTICAL BAR|PENTAGON|POINTER|SMALL TRIANGLE|TRIANGLE",
    "TRIANGLE WITH DOUBLE VERTICAL BAR"]),
  ("BOTTOM ", [
    "CURLY BRACKET|HALF BLACK CIRCLE|HALF INTEGRAL|LEFT CORNER|LEFT CROP|PARENTHESIS|RIGHT CORNER|RIGHT CROP",
    "SQUARE BRACKET|SQUARE BRACKET OVER TOP SQUARE BRACKET|TORTOISE SHELL BRACKET"]),
  ("BOX DRAWINGS DOUBLE ", [
    "DOWN AND HORIZONTAL|DOWN AND LEFT|DOWN AND RIGHT|HORIZONTAL|UP AND HORIZONTAL|UP AND LEFT|UP AND RIGHT|VERTICAL",
    "VERTICAL AND HORIZONTAL|VERTICAL AND LEFT|VERTICAL AND RIGHT"]),
  ("BOX DRAWINGS DOWN ", [
    "DOUBLE AND HORIZONTAL SINGLE|DOUBLE AND LEFT SINGLE|DOUBLE AND RIGHT SINGLE|SINGLE AND HORIZONTAL DOUBLE",
    "SINGLE AND LEFT DOUBLE|SINGLE AND RIGHT DOUBLE"]),
  ("BOX DRAWINGS DOWN HEAVY AND ", [
    "HORIZONTAL LIGHT|LEFT LIGHT|LEFT UP LIGHT|RIGHT LIGHT|RIGHT UP LIGHT|UP HORIZONTAL LIGHT"]),
  ("BOX DRAWINGS DOWN LIGHT AND ", [
    "HORIZONTAL HEAVY|LEFT HEAVY|LEFT UP HEAVY|RIGHT HEAVY|RIGHT UP HEAVY|UP HORIZONTAL HEAVY"]),
  ("BOX DRAWINGS HEAVY ", [
    "DOUBLE DASH HORIZONTAL|DOUBLE DASH VERTICAL|DOWN|DOWN AND HORIZONTAL|DOWN AND LEFT|DOWN AND RIGHT|HORIZONTAL|LEFT",
    "LEFT AND LIGHT RIGHT|QUADRUPLE DASH HORIZONTAL|QUADRUPLE DASH VERTICAL|RIGHT|TRIPLE DASH HORIZONTAL",
    "TRIPLE DASH VERTICAL|UP|UP AND HORIZONTAL|UP AND LEFT|UP AND LIGHT DOWN|UP AND RIGHT|VERTICAL",
    "VERTICAL AND HORIZONTAL|VERTICAL AND LEFT|VERTICAL AND RIGHT"]),
  ("BOX DRAWINGS LEFT ", [
    "DOWN HEAVY AND RIGHT UP LIGHT|HEAVY AND RIGHT DOWN LIGHT|HEAVY AND RIGHT UP LIGHT|HEAVY AND RIGHT VERTICAL LIGHT",
    "LIGHT AND RIGHT DOWN HEAVY|LIGHT AND RIGHT UP HEAVY|LIGHT AND RIGHT VERTICAL HEAVY|UP HEAVY AND RIGHT DOWN LIGHT"]),
  ("BOX DRAWINGS LIGHT ", [
    "ARC DOWN AND LEFT|ARC DOWN AND RIGHT|ARC UP AND LEFT|ARC UP AND RIGHT|DIAGONAL CROSS",
    "DIAGONAL UPPER LEFT TO LOWER RIGHT|DIAGONAL UPPER RIGHT TO LOWER LEFT|DOUBLE DASH HORIZONTAL|DOUBLE DASH VERTICAL",
    "DOWN|DOWN AND HORIZONTAL|DOWN AND LEFT|DOWN AND RIGHT|HORIZONTAL|LEFT|LEFT AND HEAVY RIGHT|QUADRUPLE DASH HORIZONTAL",
    "QUADRUPLE DASH VERTICAL|RIGHT|TRIPLE DASH HORIZONTAL|TRIPLE DASH VERTICAL|UP|UP AND HEAVY DOWN|UP AND HORIZONTAL",
    "UP AND LEFT|UP AND RIGHT|VERTICAL|VERTICAL AND HORIZONTAL|VERTICAL AND LEFT|VERTICAL AND RIGHT"]),
  ("BOX DRAWINGS RIGHT ", [
    "DOWN HEAVY AND LEFT UP LIGHT|HEAVY AND LEFT DOWN LIGHT|HEAVY AND LEFT UP LIGHT|HEAVY AND LEFT VERTICAL LIGHT",
    "LIGHT AND LEFT DOWN HEAVY|LIGHT AND LEFT UP HEAVY|LIGHT AND LEFT VERTICAL HEAVY|UP HEAVY AND LEFT DOWN LIGHT"]),
  ("BOX DRAWINGS UP ", [
    "DOUBLE AND HORIZONTAL SINGLE|DOUBLE AND LEFT SINGLE|DOUBLE AND RIGHT SINGLE|SINGLE AND HORIZONTAL DOUBLE",
    "SINGLE AND LEFT DOUBLE|SINGLE AND RIGHT DOUBLE"]),
  ("BOX DRAWINGS UP HEAVY AND ", [
    "DOWN HORIZONTAL LIGHT|HORIZONTAL LIGHT|LEFT DOWN LIGHT|LEFT LIGHT|RIGHT DOWN LIGHT|RIGHT LIGHT"]),
  ("BOX DRAWINGS UP LIGHT AND ", [
    "DOWN HORIZONTAL HEAVY|HORIZONTAL HEAVY|LEFT DOWN HEAVY|LEFT HEAVY|RIGHT DOWN HEAVY|RIGHT HEAVY"]),
  ("BOX DRAWINGS VERTICAL ", [
    "DOUBLE AND HORIZONTAL SINGLE|DOUBLE AND LEFT SINGLE|DOUBLE AND RIGHT SINGLE|HEAVY AND HORIZONTAL LIGHT",
    "HEAVY AND LEFT LIGHT|HEAVY AND RIGHT LIGHT|LIGHT AND HORIZONTAL HEAVY|LIGHT AND LEFT HEAVY|LIGHT AND RIGHT HEAVY",
    "SINGLE AND HORIZONTAL DOUBLE|SINGLE AND LEFT DOUBLE|SINGLE AND RIGHT DOUBLE"]),
  ("CIRCLE WITH ", [
    "ALL BUT UPPER LEFT QUADRANT BLACK|LEFT HALF BLACK|LOWER HALF BLACK|RIGHT HALF BLACK|UPPER HALF BLACK",
    "UPPER RIGHT QUADRANT BLACK|VERTICAL FILL"]),
  ("CIRCLED ", [
    "ANTICLOCKWISE ARROW|ASTERISK OPERATOR|BOLD X|C WITH OVERLAID BACKSLASH|CC|CD|CROSS FORMEE",
    "CROSS FORMEE WITH FOUR DOTS|CROSS FORMEE WITH TWO DOTS|CROSS POMMEE|CROSSING LANES|DASH|DIVISION SLASH",
    "DOLLAR SIGN WITH OVERLAID BACKSLASH|DOT OPERATOR|EQUALS|HEAVY WHITE RIGHTWARDS ARROW|HORIZONTAL BAR WITH NOTCH",
    "HUMAN FIGURE|INFORMATION SOURCE|ITALIC LATIN CAPITAL LETTER C|ITALIC LATIN CAPITAL LETTER R|MINUS",
    "OPEN CENTRE EIGHT POINTED STAR|PLUS|POSTAL MARK|RING OPERATOR|TIMES|TRIANGLE DOWN|WHITE STAR|WZ|X|ZERO WITH SLASH"]),
  ("CIRCLED DIGIT ", ["EIGHT|FIVE|FOUR|NINE|ONE|SEVEN|SIX|THREE|TWO|ZERO"]),
  ("CIRCLED LATIN CAPITAL LETTER ", ["A|B|C|D|E|F|G|H|I|J|K|L|M|N|O|P|Q|R|S|T|U|V|W|X|Y|Z"]),
  ("CIRCLED LATIN SMALL LETTER ", ["A|B|C|D|E|F|G|H|I|J|K|L|M|N|O|P|Q|R|S|T|U|V|W|X|Y|Z"]),
  ("CIRCLED NUMBER ", ["EIGHTEEN|ELEVEN|FIFTEEN|FOURTEEN|NINETEEN|SEVENTEEN|SIXTEEN|TEN|THIRTEEN|TWELVE|TWENTY"]),
  ("CLOCK FACE ", [
    "EIGHT OCLOCK|EIGHT-THIRTY|ELEVEN OCLOCK|ELEVEN-THIRTY|FIVE OCLOCK|FIVE-THIRTY|FOUR OCLOCK|FOUR-THIRTY|NINE OCLOCK",
    "NINE-THIRTY|ONE OCLOCK|ONE-THIRTY|SEVEN OCLOCK|SEVEN-THIRTY|SIX OCLOCK|SIX-THIRTY|TEN OCLOCK|TEN-THIRTY|THREE OCLOCK",
    "THREE-THIRTY|TWELVE OCLOCK|TWELVE-THIRTY|TWO OCLOCK|TWO-THIRTY"]),
  ("CLOCKWISE ", [
    "CONTOUR INTEGRAL|DOWNWARDS AND UPWARDS OPEN CIRCLE ARROWS|GAPPED CIRCLE ARROW|INTEGRAL|OPEN CIRCLE ARROW",
    "RIGHT AND LEFT SEMICIRCLE ARROWS|RIGHTWARDS AND LEFTWARDS OPEN CIRCLE ARROWS",
    "RIGHTWARDS AND LEFTWARDS OPEN CIRCLE ARROWS WITH CIRCLED ONE OVERLAY|TOP SEMICIRCLE ARROW",
    "TRIANGLE-HEADED OPEN CIRCLE ARROW"]),
  ("COMBINING ", [
    "ACUTE ACCENT|ACUTE ACCENT BELOW|ACUTE TONE MARK|ALMOST EQUAL TO ABOVE|ASTERISK BELOW|BREVE|BREVE BELOW|BRIDGE ABOVE",
    "BRIDGE BELOW|CANDRABINDU|CARON|CARON BELOW|CEDILLA|CIRCUMFLEX ACCENT|CIRCUMFLEX ACCENT BELOW|COMMA ABOVE",
    "COMMA ABOVE RIGHT|COMMA BELOW|DIAERESIS|DIAERESIS BELOW|DOT ABOVE|DOT ABOVE RIGHT|DOT BELOW|DOWN TACK BELOW",
    "EQUALS SIGN BELOW|FERMATA|GRAPHEME JOINER|GRAVE ACCENT|GRAVE ACCENT BELOW|GRAVE TONE MARK|GREEK DIALYTIKA TONOS",
    "GREEK KORONIS|GREEK PERISPOMENI|GREEK YPOGEGRAMMENI|HOMOTHETIC ABOVE|HOOK ABOVE|HORN|INVERTED BREVE",
    "INVERTED BREVE BELOW|INVERTED BRIDGE BELOW|INVERTED DOUBLE ARCH BELOW|KATAKANA-HIRAGANA SEMI-VOICED SOUND MARK",
    "KATAKANA-HIRAGANA VOICED SOUND MARK|LONG SOLIDUS OVERLAY|LONG STROKE OVERLAY|LOW LINE|MACRON|MACRON BELOW",
    "MINUS SIGN BELOW|NOT TILDE ABOVE|OGONEK|OVERLINE|PALATALIZED HOOK BELOW|PLUS SIGN BELOW|RETROFLEX HOOK BELOW",
    "REVERSED COMMA ABOVE|RING ABOVE|RING BELOW|SEAGULL BELOW|SHORT SOLIDUS OVERLAY|SHORT STROKE OVERLAY|SQUARE BELOW",
    "TILDE|TILDE BELOW|TILDE OVERLAY|TURNED COMMA ABOVE|UP TACK BELOW|UPWARDS ARROW BELOW|VERTICAL LINE ABOVE",
    "VERTICAL LINE BELOW|VERTICAL TILDE|X ABOVE|X BELOW|ZIGZAG ABOVE"]),
  ("COMBINING DOUBLE ", [
    "ACUTE ACCENT|BREVE|BREVE BELOW|GRAVE ACCENT|INVERTED BREVE|LOW LINE|MACRON|MACRON BELOW|OVERLINE",
    "RIGHTWARDS ARROW BELOW|RING BELOW|TILDE|VERTICAL LINE ABOVE|VERTICAL LINE BELOW"]),
  ("COMBINING LATIN SMALL LETTER ", ["A|C|D|E|H|I|M|O|R|T|U|V|X"]),
  ("COMBINING LEFT ", [
    "ANGLE ABOVE|ANGLE BELOW|ARROWHEAD BELOW|HALF RING ABOVE|HALF RING BELOW|RIGHT ARROW BELOW|TACK BELOW"]),
  ("COMBINING RIGHT ", [
    "ARROWHEAD ABOVE|ARROWHEAD AND UP ARROWHEAD BELOW|ARROWHEAD BELOW|HALF RING ABOVE|HALF RING BELOW|TACK BELOW"]),
  ("CONTAINS ", [
    "AS MEMBER|AS NORMAL SUBGROUP|AS NORMAL SUBGROUP OR EQUAL TO|WITH LONG HORIZONTAL STROKE|WITH OVERBAR",
    "WITH VERTICAL BAR AT END OF HORIZONTAL STROKE"]),
  ("COPTIC CAPITAL LETTER ", ["DEI|FEI|GANGIA|HORI|KHEI|SHEI|SHIMA"]),
  ("COPTIC SMALL LETTER ", ["DEI|FEI|GANGIA|HORI|KHEI|SHEI|SHIMA"]),
  ("CYRILLIC CAPITAL LETTER ", [
    "A|BE|BYELORUSSIAN-UKRAINIAN I|CHE|DE|DJE|DZE|DZHE|E|EF|EL|EM|EN|ER|ES|GHE|GJE|HA|HARD SIGN|I|I WITH GRAVE|IE",
    "IE WITH GRAVE|IO|JE|KA|KJE|LJE|NJE|O|PE|SHA|SHCHA|SHORT I|SHORT U|SOFT SIGN|TE|TSE|TSHE|U|UKRAINIAN IE|VE|YA|YERU|YI",
    "YU|ZE|ZHE"]),
  ("CYRILLIC SMALL LETTER ", [
    "A|BE|BYELORUSSIAN-UKRAINIAN I|CHE|DE|DJE|DZE|DZHE|E|EF|EL|EM|EN|ER|ES|GHE|GJE|HA|HARD SIGN|I|I WITH GRAVE|IE",
    "IE WITH GRAVE|IO|JE|KA|KJE|LJE|NJE|O|PE|SHA|SHCHA|SHORT I|SHORT U|SOFT SIGN|TE|TSE|TSHE|U|UKRAINIAN IE|VE|YA|YERU|YI",
    "YU|ZE|ZHE"]),
  ("DENTISTRY SYMBOL LIGHT ", [
    "DOWN AND HORIZONTAL|DOWN AND HORIZONTAL WITH CIRCLE|DOWN AND HORIZONTAL WITH TRIANGLE|DOWN AND HORIZONTAL WITH WAVE",
    "UP AND HORIZONTAL|UP AND HORIZONTAL WITH CIRCLE|UP AND HORIZONTAL WITH TRIANGLE|UP AND HORIZONTAL WITH WAVE"]),
  ("DENTISTRY SYMBOL LIGHT VERTICAL ", [
    "AND BOTTOM LEFT|AND BOTTOM RIGHT|AND TOP LEFT|AND TOP RIGHT|AND WAVE|WITH CIRCLE|WITH TRIANGLE"]),
  ("DIAMOND ", [
    "OPERATOR|SHAPE WITH A DOT INSIDE|WITH BOTTOM HALF BLACK|WITH LEFT HALF BLACK|WITH RIGHT HALF BLACK",
    "WITH TOP HALF BLACK"]),
  ("DIE ", ["FACE-1|FACE-2|FACE-3|FACE-4|FACE-5|FACE-6"]),
  ("DIGIT ", [
    "EIGHT|EIGHT COMMA|EIGHT FULL STOP|FIVE|FIVE COMMA|FIVE FULL STOP|FOUR|FOUR COMMA|FOUR FULL STOP|NINE|NINE COMMA",
    "NINE FULL STOP|ONE|ONE COMMA|ONE FULL STOP|SEVEN|SEVEN COMMA|SEVEN FULL STOP|SIX|SIX COMMA|SIX FULL STOP|THREE",
    "THREE COMMA|THREE FULL STOP|TWO|TWO COMMA|TWO FULL STOP|ZERO|ZERO COMMA|ZERO FULL STOP"]),
  ("DINGBAT CIRCLED SANS-SERIF DIGIT ", ["EIGHT|FIVE|FOUR|NINE|ONE|SEVEN|SIX|THREE|TWO|ZERO"]),
  ("DINGBAT NEGATIVE CIRCLED DIGIT ", ["EIGHT|FIVE|FOUR|NINE|ONE|SEVEN|SIX|THREE|TWO"]),
  ("DINGBAT NEGATIVE CIRCLED SANS-SERIF DIGIT ", ["EIGHT|FIVE|FOUR|NINE|ONE|SEVEN|SIX|THREE|TWO|ZERO"]),
  ("DOES NOT ", [
    "CONTAIN AS MEMBER|CONTAIN AS NORMAL SUBGROUP|CONTAIN AS NORMAL SUBGROUP OR EQUAL|DIVIDE|FORCE|PRECEDE",
    "PRECEDE OR EQUAL|PROVE|SUCCEED|SUCCEED OR EQUAL"]),
  ("DOUBLE ", [
    "ACUTE ACCENT|CIRCLED NUMBER TEN|CURLY LOOP|DAGGER|EXCLAMATION MARK|HIGH-REVERSED-9 QUOTATION MARK|INTEGRAL",
    "INTERSECTION|LOW LINE|LOW-9 QUOTATION MARK|PRIME|PRIME QUOTATION MARK|QUESTION MARK|SUBSET|SUPERSET|UNION",
    "VERTICAL BAR|VERTICAL BAR DOUBLE RIGHT TURNSTILE|VERTICAL LINE"]),
  ("DOUBLE CIRCLED DIGIT ", ["EIGHT|FIVE|FOUR|NINE|ONE|SEVEN|SIX|THREE|TWO"]),
  ("DOUBLE-STRUCK ", [
    "ITALIC CAPITAL D|ITALIC SMALL D|ITALIC SMALL E|ITALIC SMALL I|ITALIC SMALL J|N-ARY SUMMATION|SMALL GAMMA|SMALL PI"]),
  ("DOUBLE-STRUCK CAPITAL ", ["C|GAMMA|H|N|P|PI|Q|R|Z"]),
  ("DOWNWARDS ", [
    "ARROW|BLACK ARROW|BLACK CIRCLED WHITE ARROW|DASHED ARROW|DOUBLE ARROW|HARPOON WITH BARB LEFTWARDS",
    "HARPOON WITH BARB RIGHTWARDS|PAIRED ARROWS|QUADRUPLE ARROW|TWO HEADED ARROW",
    "TWO-HEADED ARROW WITH TRIANGLE ARROWHEADS|WHITE ARROW|ZIGZAG ARROW"]),
  ("DOWNWARDS ARROW ", [
    "FROM BAR|LEFTWARDS OF UPWARDS ARROW|WITH CORNER LEFTWARDS|WITH DOUBLE STROKE|WITH TIP LEFTWARDS|WITH TIP RIGHTWARDS"]),
  ("DOWNWARDS TRIANGLE-HEADED ", [
    "ARROW|ARROW LEFTWARDS OF UPWARDS TRIANGLE-HEADED ARROW|ARROW TO BAR|ARROW WITH DOUBLE HORIZONTAL STROKE",
    "ARROW WITH LONG TIP LEFTWARDS|ARROW WITH LONG TIP RIGHTWARDS|DASHED ARROW|PAIRED ARROWS|ZIGZAG ARROW"]),
  ("EIGHT ", [
    "PETALLED OUTLINED BLACK FLORETTE|POINTED BLACK STAR|POINTED PINWHEEL STAR|POINTED RECTILINEAR BLACK STAR",
    "SPOKED ASTERISK|TEARDROP-SPOKED PROPELLER ASTERISK"]),
  ("ELEMENT OF WITH ", [
    "DOT ABOVE|LONG HORIZONTAL STROKE|OVERBAR|TWO HORIZONTAL STROKES|UNDERBAR|VERTICAL BAR AT END OF HORIZONTAL STROKE"]),
  ("EMOJI ", [
    "COMPONENT BALD|COMPONENT CURLY HAIR|COMPONENT RED HAIR|COMPONENT WHITE HAIR|MODIFIER FITZPATRICK TYPE-1-2",
    "MODIFIER FITZPATRICK TYPE-3|MODIFIER FITZPATRICK TYPE-4|MODIFIER FITZPATRICK TYPE-5|MODIFIER FITZPATRICK TYPE-6"]),
  ("EMPTY ", ["DOCUMENT|NEST|NOTE|NOTE PAD|NOTE PAGE|PAGE|PAGES|SET"]),
  ("END OF ", ["GUARDED AREA|LINE|MEDIUM|PROOF|PROTECTED AREA|SELECTED AREA|TEXT|TRANSMISSION|TRANSMISSION BLOCK"]),
  ("EQUAL ", ["AND PARALLEL TO|TO BY DEFINITION|TO OR GREATER-THAN|TO OR LESS-THAN|TO OR PRECEDES|TO OR SUCCEEDS"]),
  ("FACE ", [
    "HOLDING BACK TEARS|MASSAGE|PALM|SAVOURING DELICIOUS FOOD|SCREAMING IN FEAR|THROWING A KISS|WITHOUT MOUTH"]),
  ("FACE WITH ", [
    "COLD SWEAT|COWBOY HAT|DIAGONAL MOUTH|FINGER COVERING CLOSED LIPS|HEAD-BANDAGE|LOOK OF TRIUMPH|MEDICAL MASK|MONOCLE",
    "NO GOOD GESTURE|OK GESTURE|ONE EYEBROW RAISED|OPEN EYES AND HAND OVER MOUTH|OPEN MOUTH|OPEN MOUTH AND COLD SWEAT",
    "OPEN MOUTH VOMITING|PARTY HORN AND PARTY HAT|PEEKING EYE|PLEADING EYES|ROLLING EYES|STUCK-OUT TONGUE",
    "STUCK-OUT TONGUE AND TIGHTLY-CLOSED EYES|STUCK-OUT TONGUE AND WINKING EYE|TEARS OF JOY|THERMOMETER",
    "UNEVEN EYES AND WAVY MOUTH"]),
  ("FOUR ", [
    "BALLOON-SPOKED ASTERISK|CLUB-SPOKED ASTERISK|CORNER ARROWS CIRCLING ANTICLOCKWISE|DOT MARK|DOT PUNCTUATION",
    "LEAF CLOVER|TEARDROP-SPOKED ASTERISK"]),
  ("FULLWIDTH ", [
    "AMPERSAND|APOSTROPHE|ASTERISK|CIRCUMFLEX ACCENT|COLON|COMMA|COMMERCIAL AT|DOLLAR SIGN|EQUALS SIGN|EXCLAMATION MARK",
    "FULL STOP|GRAVE ACCENT|GREATER-THAN SIGN|HYPHEN-MINUS|LEFT CURLY BRACKET|LEFT PARENTHESIS|LEFT SQUARE BRACKET",
    "LEFT WHITE PARENTHESIS|LESS-THAN SIGN|LOW LINE|NUMBER SIGN|PERCENT SIGN|PLUS SIGN|QUESTION MARK|QUOTATION MARK",
    "REVERSE SOLIDUS|RIGHT CURLY BRACKET|RIGHT PARENTHESIS|RIGHT SQUARE BRACKET|RIGHT WHITE PARENTHESIS|SEMICOLON|SOLIDUS",
    "TILDE|VERTICAL LINE"]),
  ("FULLWIDTH DIGIT ", ["EIGHT|FIVE|FOUR|NINE|ONE|SEVEN|SIX|THREE|TWO|ZERO"]),
  ("FULLWIDTH LATIN CAPITAL LETTER ", ["A|B|C|D|E|F|G|H|I|J|K|L|M|N|O|P|Q|R|S|T|U|V|W|X|Y|Z"]),
  ("FULLWIDTH LATIN SMALL LETTER ", ["A|B|C|D|E|F|G|H|I|J|K|L|M|N|O|P|Q|R|S|T|U|V|W|X|Y|Z"]),
  ("GREATER-THAN ", [
    "BUT NOT EQUAL TO|BUT NOT EQUIVALENT TO|EQUAL TO OR LESS-THAN|OR EQUAL TO|OR EQUIVALENT TO|OR LESS-THAN|OVER EQUAL TO",
    "SIGN|WITH DOT"]),
  ("GREEK ", [
    "ANO TELEIA|BETA SYMBOL|DIALYTIKA TONOS|KAI SYMBOL|KAPPA SYMBOL|LOWER NUMERAL SIGN|LUNATE EPSILON SYMBOL",
    "LUNATE SIGMA SYMBOL|NUMERAL SIGN|PHI SYMBOL|PI SYMBOL|QUESTION MARK|REVERSED LUNATE EPSILON SYMBOL|RHO SYMBOL",
    "RHO WITH STROKE SYMBOL|SMALL DOTTED LUNATE SIGMA SYMBOL|SMALL REVERSED DOTTED LUNATE SIGMA SYMBOL",
    "SMALL REVERSED LUNATE SIGMA SYMBOL|THETA SYMBOL|TONOS|UPSILON WITH ACUTE AND HOOK SYMBOL",
    "UPSILON WITH DIAERESIS AND HOOK SYMBOL|UPSILON WITH HOOK SYMBOL|YPOGEGRAMMENI"]),
  ("GREEK CAPITAL ", [
    "DOTTED LUNATE SIGMA SYMBOL|KAI SYMBOL|LUNATE SIGMA SYMBOL|REVERSED DOTTED LUNATE SIGMA SYMBOL",
    "REVERSED LUNATE SIGMA SYMBOL|THETA SYMBOL"]),
  ("GREEK CAPITAL LETTER ", [
    "ALPHA|ALPHA WITH TONOS|ARCHAIC SAMPI|BETA|CHI|DELTA|EPSILON|EPSILON WITH TONOS|ETA|ETA WITH TONOS|GAMMA|HETA|IOTA",
    "IOTA WITH DIALYTIKA|IOTA WITH TONOS|KAPPA|LAMDA|MU|NU|OMEGA|OMEGA WITH TONOS|OMICRON|OMICRON WITH TONOS",
    "PAMPHYLIAN DIGAMMA|PHI|PI|PSI|RHO|SAN|SHO|SIGMA|TAU|THETA|UPSILON|UPSILON WITH DIALYTIKA|UPSILON WITH TONOS|XI|YOT",
    "ZETA"]),
  ("GREEK LETTER ", ["ARCHAIC KOPPA|DIGAMMA|KOPPA|SAMPI|STIGMA|YOT"]),
  ("GREEK SMALL LETTER ", [
    "ALPHA|ALPHA WITH TONOS|ARCHAIC KOPPA|ARCHAIC SAMPI|BETA|CHI|DELTA|DIGAMMA|EPSILON|EPSILON WITH TONOS|ETA",
    "ETA WITH TONOS|FINAL SIGMA|GAMMA|HETA|IOTA|IOTA WITH DIALYTIKA|IOTA WITH DIALYTIKA AND TONOS|IOTA WITH TONOS|KAPPA",
    "KOPPA|LAMDA|MU|NU|OMEGA|OMEGA WITH TONOS|OMICRON|OMICRON WITH TONOS|PAMPHYLIAN DIGAMMA|PHI|PI|PSI|RHO|SAMPI|SAN|SHO",
    "SIGMA|STIGMA|TAU|THETA|UPSILON|UPSILON WITH DIALYTIKA|UPSILON WITH DIALYTIKA AND TONOS|UPSILON WITH TONOS|XI|ZETA"]),
  ("HANGZHOU NUMERAL ", ["EIGHT|FIVE|FOUR|NINE|ONE|SEVEN|SIX|TEN|THIRTY|THREE|TWENTY|TWO"]),
  ("HEAVY ", [
    "ASTERISK|BALLOT X|BLACK CURVED DOWNWARDS AND RIGHTWARDS ARROW|BLACK CURVED UPWARDS AND RIGHTWARDS ARROW|BLACK HEART",
    "BLACK-FEATHERED NORTH EAST ARROW|BLACK-FEATHERED RIGHTWARDS ARROW|BLACK-FEATHERED SOUTH EAST ARROW|CHECK MARK",
    "CHEVRON SNOWFLAKE|CIRCLE|CIRCLE WITH CIRCLE INSIDE|CIRCLE WITH STROKE AND TWO DOTS ABOVE|CIRCLED SALTIRE",
    "CONCAVE-POINTED BLACK RIGHTWARDS ARROW|DASHED TRIANGLE-HEADED RIGHTWARDS ARROW|DIVISION SIGN|DOLLAR SIGN",
    "DOUBLE COMMA QUOTATION MARK ORNAMENT|DOUBLE TURNED COMMA QUOTATION MARK ORNAMENT",
    "EIGHT POINTED RECTILINEAR BLACK STAR|EIGHT TEARDROP-SPOKED PROPELLER ASTERISK|EXCLAMATION MARK ORNAMENT",
    "EXCLAMATION MARK SYMBOL|FOUR BALLOON-SPOKED ASTERISK|GREEK CROSS|HEART EXCLAMATION MARK ORNAMENT|LARGE CIRCLE",
    "LATIN CROSS|LEFT-POINTING ANGLE BRACKET ORNAMENT|LEFT-POINTING ANGLE QUOTATION MARK ORNAMENT",
    "LOW DOUBLE COMMA QUOTATION MARK ORNAMENT|LOW SINGLE COMMA QUOTATION MARK ORNAMENT",
    "LOWER RIGHT-SHADOWED WHITE RIGHTWARDS ARROW|MINUS SIGN|MULTIPLICATION X|NORTH EAST ARROW|OPEN CENTRE CROSS",
    "OUTLINED BLACK STAR|OVAL WITH OVAL INSIDE|PLUS SIGN|RIGHT-POINTING ANGLE BRACKET ORNAMENT",
    "RIGHT-POINTING ANGLE QUOTATION MARK ORNAMENT|RIGHTWARDS ARROW|ROUND-TIPPED RIGHTWARDS ARROW",
    "SINGLE COMMA QUOTATION MARK ORNAMENT|SINGLE TURNED COMMA QUOTATION MARK ORNAMENT|SOUTH EAST ARROW|SPARKLE",
    "TEARDROP-SHANKED RIGHTWARDS ARROW|TEARDROP-SPOKED ASTERISK|TEARDROP-SPOKED PINWHEEL ASTERISK",
    "TRIANGLE-HEADED RIGHTWARDS ARROW|UPPER RIGHT-SHADOWED WHITE RIGHTWARDS ARROW|VERTICAL BAR",
    "WEDGE-TAILED RIGHTWARDS ARROW|WHITE DOWN-POINTING TRIANGLE|WIDE-HEADED RIGHTWARDS ARROW"]),
  ("HEBREW LETTER ", [
    "ALEF|AYIN|BET|DALET|FINAL KAF|FINAL MEM|FINAL NUN|FINAL PE|FINAL TSADI|GIMEL|HE|HET|KAF|LAMED|MEM|NUN|PE|QOF|RESH",
    "SAMEKH|SHIN|TAV|TET|TSADI|VAV|YOD|ZAYIN"]),
  ("HIRAGANA LETTER ", [
    "A|BA|BE|BI|BO|BU|DA|DE|DI|DO|DU|E|GA|GE|GI|GO|GU|HA|HE|HI|HO|HU|I|KA|KE|KI|KO|KU|MA|ME|MI|MO|MU|N|NA|NE|NI|NO|NU|O",
    "PA|PE|PI|PO|PU|RA|RE|RI|RO|RU|SA|SE|SI|SO|SU|TA|TE|TI|TO|TU|U|VU|WA|WE|WI|WO|YA|YO|YU|ZA|ZE|ZI|ZO|ZU"]),
  ("HIRAGANA LETTER SMALL ", ["A|E|I|KA|KE|O|TU|U|WA|YA|YO|YU"]),
  ("HORIZONTAL ", [
    "BAR|BLACK HEXAGON|BLACK OCTAGON|ELLIPSIS|LINE EXTENSION|MALE WITH STROKE SIGN|SCAN LINE-1|SCAN LINE-3|SCAN LINE-7",
    "SCAN LINE-9|TAB KEY|TABULATION|TABULATION SET|TRAFFIC LIGHT"]),
  ("IDEOGRAPHIC ", [
    "CLOSING MARK|COMMA|DEPARTING TONE MARK|ENTERING TONE MARK|FULL STOP|HALF FILL SPACE|ITERATION MARK|LEVEL TONE MARK",
    "NUMBER ZERO|RISING TONE MARK|SPACE|TELEGRAPH LINE FEED SEPARATOR SYMBOL|VARIATION INDICATOR"]),
  ("INFORMATION ", ["DESK PERSON|SEPARATOR FOUR|SEPARATOR ONE|SEPARATOR THREE|SEPARATOR TWO|SOURCE"]),
  ("INVERTED ", ["EXCLAMATION MARK|LAZY S|OHM SIGN|PENTAGRAM|QUESTION MARK|UNDERTIE"]),
  ("JAPANESE ", ["BANK SYMBOL|CASTLE|DOLLS|GOBLIN|INDUSTRIAL STANDARD SYMBOL|OGRE|POST OFFICE|SYMBOL FOR BEGINNER"]),
  ("KATAKANA LETTER ", [
    "A|BA|BE|BI|BO|BU|DA|DE|DI|DO|DU|E|GA|GE|GI|GO|GU|HA|HE|HI|HO|HU|I|KA|KE|KI|KO|KU|MA|ME|MI|MO|MU|N|NA|NE|NI|NO|NU|O",
    "PA|PE|PI|PO|PU|RA|RE|RI|RO|RU|SA|SE|SI|SO|SU|TA|TE|TI|TO|TU|U|VA|VE|VI|VO|VU|WA|WE|WI|WO|YA|YO|YU|ZA|ZE|ZI|ZO|ZU"]),
  ("KATAKANA LETTER SMALL ", ["A|E|I|KA|KE|O|TU|U|WA|YA|YO|YU"]),
  ("LATIN CAPITAL LETTER ", [
    "A|AE|AE WITH ACUTE|AE WITH MACRON|AFRICAN D|B|B WITH HOOK|B WITH STROKE|B WITH TOPBAR|C|D|DZ|DZ WITH CARON|E|ENG|ESH",
    "ETH|EZH|EZH REVERSED|EZH WITH CARON|F|F WITH HOOK|G|GAMMA|GHA|GLOTTAL STOP|H|H WITH CARON|H WITH CIRCUMFLEX",
    "H WITH STROKE|HWAIR|I|IOTA|J|J WITH CIRCUMFLEX|J WITH STROKE|K|K WITH CARON|K WITH CEDILLA|K WITH HOOK|L|LJ|M|N|NJ|O",
    "OI|OPEN E|OPEN O|OU|P|P WITH HOOK|Q|R|REVERSED E|S|S WITH ACUTE|S WITH CARON|S WITH CEDILLA|S WITH CIRCUMFLEX",
    "S WITH COMMA BELOW|SCHWA|SMALL Q WITH HOOK TAIL|T|THORN|TONE FIVE|TONE SIX|TONE TWO|TURNED M|TURNED V|U|U BAR",
    "UPSILON|V|V WITH HOOK|W|W WITH CIRCUMFLEX|WYNN|X|Y|YOGH|Z|Z WITH ACUTE|Z WITH CARON|Z WITH DOT ABOVE|Z WITH HOOK",
    "Z WITH STROKE"]),
  ("LATIN CAPITAL LETTER A WITH ", [
    "ACUTE|BREVE|CARON|CIRCUMFLEX|DIAERESIS|DIAERESIS AND MACRON|DOT ABOVE|DOT ABOVE AND MACRON|DOUBLE GRAVE|GRAVE",
    "INVERTED BREVE|MACRON|OGONEK|RING ABOVE|RING ABOVE AND ACUTE|STROKE|TILDE"]),
  ("LATIN CAPITAL LETTER C WITH ", ["ACUTE|CARON|CEDILLA|CIRCUMFLEX|DOT ABOVE|HOOK|STROKE"]),
  ("LATIN CAPITAL LETTER D WITH ", ["CARON|HOOK|SMALL LETTER Z|SMALL LETTER Z WITH CARON|STROKE|TOPBAR"]),
  ("LATIN CAPITAL LETTER E WITH ", [
    "ACUTE|BREVE|CARON|CEDILLA|CIRCUMFLEX|DIAERESIS|DOT ABOVE|DOUBLE GRAVE|GRAVE|INVERTED BREVE|MACRON|OGONEK|STROKE"]),
  ("LATIN CAPITAL LETTER G WITH ", ["ACUTE|BREVE|CARON|CEDILLA|CIRCUMFLEX|DOT ABOVE|HOOK|STROKE"]),
  ("LATIN CAPITAL LETTER I WITH ", [
    "ACUTE|BREVE|CARON|CIRCUMFLEX|DIAERESIS|DOT ABOVE|DOUBLE GRAVE|GRAVE|INVERTED BREVE|MACRON|OGONEK|STROKE|TILDE"]),
  ("LATIN CAPITAL LETTER L WITH ", ["ACUTE|BAR|CARON|CEDILLA|MIDDLE DOT|SMALL LETTER J|STROKE"]),
  ("LATIN CAPITAL LETTER N WITH ", ["ACUTE|CARON|CEDILLA|GRAVE|LEFT HOOK|LONG RIGHT LEG|SMALL LETTER J|TILDE"]),
  ("LATIN CAPITAL LETTER O WITH ", [
    "ACUTE|BREVE|CARON|CIRCUMFLEX|DIAERESIS|DIAERESIS AND MACRON|DOT ABOVE|DOT ABOVE AND MACRON|DOUBLE ACUTE|DOUBLE GRAVE",
    "GRAVE|HORN|INVERTED BREVE|MACRON|MIDDLE TILDE|OGONEK|OGONEK AND MACRON|STROKE|STROKE AND ACUTE|TILDE",
    "TILDE AND MACRON"]),
  ("LATIN CAPITAL LETTER R WITH ", ["ACUTE|CARON|CEDILLA|DOUBLE GRAVE|INVERTED BREVE|STROKE"]),
  ("LATIN CAPITAL LETTER T WITH ", ["CARON|CEDILLA|COMMA BELOW|DIAGONAL STROKE|HOOK|RETROFLEX HOOK|STROKE"]),
  ("LATIN CAPITAL LETTER U WITH ", [
    "ACUTE|BREVE|CARON|CIRCUMFLEX|DIAERESIS|DIAERESIS AND ACUTE|DIAERESIS AND CARON|DIAERESIS AND GRAVE",
    "DIAERESIS AND MACRON|DOUBLE ACUTE|DOUBLE GRAVE|GRAVE|HORN|INVERTED BREVE|MACRON|OGONEK|RING ABOVE|TILDE"]),
  ("LATIN CAPITAL LETTER Y WITH ", ["ACUTE|CIRCUMFLEX|DIAERESIS|HOOK|MACRON|STROKE"]),
  ("LATIN LETTER ", [
    "ALVEOLAR CLICK|BIDENTAL PERCUSSIVE|BILABIAL CLICK|BILABIAL PERCUSSIVE|DENTAL CLICK|GLOTTAL STOP",
    "GLOTTAL STOP WITH STROKE|INVERTED GLOTTAL STOP|INVERTED GLOTTAL STOP WITH STROKE|LATERAL CLICK",
    "PHARYNGEAL VOICED FRICATIVE|RETROFLEX CLICK|REVERSED ESH LOOP|REVERSED GLOTTAL STOP WITH STROKE|STRETCHED C",
    "TWO WITH STROKE|WYNN|YR"]),
  ("LATIN LETTER SMALL CAPITAL ", ["B|G|G WITH HOOK|H|I|INVERTED R|L|N|OE|R|Y"]),
  ("LATIN SMALL LETTER ", [
    "A|AE|AE WITH ACUTE|AE WITH MACRON|ALPHA|B|B WITH HOOK|B WITH STROKE|B WITH TOPBAR|BARRED O|C|CLOSED OMEGA",
    "CLOSED OPEN E|CLOSED REVERSED OPEN E|D|DB DIGRAPH|DEZH DIGRAPH|DOTLESS I|DOTLESS J|DOTLESS J WITH STROKE",
    "DOTLESS J WITH STROKE AND HOOK|DZ|DZ DIGRAPH|DZ DIGRAPH WITH CURL|DZ WITH CARON|E|ENG|ESH|ESH WITH CURL|ETH|EZH",
    "EZH REVERSED|EZH WITH CARON|EZH WITH CURL|EZH WITH TAIL|F|F WITH HOOK|FENG DIGRAPH|G|GAMMA|GHA|GLOTTAL STOP|H",
    "H WITH CARON|H WITH CIRCUMFLEX|H WITH HOOK|H WITH STROKE|HENG WITH HOOK|HV|I|IOTA|J|J WITH CARON|J WITH CIRCUMFLEX",
    "J WITH CROSSED-TAIL|J WITH STROKE|K|K WITH CARON|K WITH CEDILLA|K WITH HOOK|KRA|L|LAMBDA WITH STROKE|LEZH|LJ|LONG S",
    "LS DIGRAPH|LZ DIGRAPH|M|M WITH HOOK|N|N PRECEDED BY APOSTROPHE|NJ|O|OI|OPEN E|OPEN O|OU|P|P WITH HOOK|PHI|Q",
    "Q WITH HOOK|Q WITH HOOK TAIL|QP DIGRAPH|R|RAMS HORN|REVERSED C|REVERSED E|REVERSED OPEN E|REVERSED OPEN E WITH HOOK",
    "REVERSED R WITH FISHHOOK|S|SCHWA|SCHWA WITH HOOK|SCRIPT G|SHARP S|SQUAT REVERSED ESH|T|TC DIGRAPH WITH CURL",
    "TESH DIGRAPH|THORN|TONE FIVE|TONE SIX|TONE TWO|TS DIGRAPH|U|U BAR|UPSILON|V|V WITH HOOK|W|W WITH CIRCUMFLEX|X|Y|YOGH",
    "Z"]),
  ("LATIN SMALL LETTER A WITH ", [
    "ACUTE|BREVE|CARON|CIRCUMFLEX|DIAERESIS|DIAERESIS AND MACRON|DOT ABOVE|DOT ABOVE AND MACRON|DOUBLE GRAVE|GRAVE",
    "INVERTED BREVE|MACRON|OGONEK|RING ABOVE|RING ABOVE AND ACUTE|TILDE"]),
  ("LATIN SMALL LETTER C WITH ", ["ACUTE|CARON|CEDILLA|CIRCUMFLEX|CURL|DOT ABOVE|HOOK|STROKE"]),
  ("LATIN SMALL LETTER D WITH ", ["CARON|CURL|HOOK|STROKE|TAIL|TOPBAR"]),
  ("LATIN SMALL LETTER E WITH ", [
    "ACUTE|BREVE|CARON|CEDILLA|CIRCUMFLEX|DIAERESIS|DOT ABOVE|DOUBLE GRAVE|GRAVE|INVERTED BREVE|MACRON|OGONEK|STROKE"]),
  ("LATIN SMALL LETTER G WITH ", ["ACUTE|BREVE|CARON|CEDILLA|CIRCUMFLEX|DOT ABOVE|HOOK|STROKE"]),
  ("LATIN SMALL LETTER I WITH ", [
    "ACUTE|BREVE|CARON|CIRCUMFLEX|DIAERESIS|DOUBLE GRAVE|GRAVE|INVERTED BREVE|MACRON|OGONEK|STROKE|TILDE"]),
  ("LATIN SMALL LETTER L WITH ", ["ACUTE|BAR|BELT|CARON|CEDILLA|CURL|MIDDLE DOT|MIDDLE TILDE|RETROFLEX HOOK|STROKE"]),
  ("LATIN SMALL LETTER N WITH ", ["ACUTE|CARON|CEDILLA|CURL|GRAVE|LEFT HOOK|LONG RIGHT LEG|RETROFLEX HOOK|TILDE"]),
  ("LATIN SMALL LETTER O WITH ", [
    "ACUTE|BREVE|CARON|CIRCUMFLEX|DIAERESIS|DIAERESIS AND MACRON|DOT ABOVE|DOT ABOVE AND MACRON|DOUBLE ACUTE|DOUBLE GRAVE",
    "GRAVE|HORN|INVERTED BREVE|MACRON|OGONEK|OGONEK AND MACRON|STROKE|STROKE AND ACUTE|TILDE|TILDE AND MACRON"]),
  ("LATIN SMALL LETTER R WITH ", ["ACUTE|CARON|CEDILLA|DOUBLE GRAVE|FISHHOOK|INVERTED BREVE|LONG LEG|STROKE|TAIL"]),
  ("LATIN SMALL LETTER S WITH ", ["ACUTE|CARON|CEDILLA|CIRCUMFLEX|COMMA BELOW|HOOK|SWASH TAIL"]),
  ("LATIN SMALL LETTER T WITH ", ["CARON|CEDILLA|COMMA BELOW|CURL|HOOK|PALATAL HOOK|RETROFLEX HOOK|STROKE"]),
  ("LATIN SMALL LETTER TURNED ", [
    "A|ALPHA|DELTA|E|H|H WITH FISHHOOK|H WITH FISHHOOK AND TAIL|K|M|M WITH LONG LEG|R|R WITH HOOK|R WITH LONG LEG|T|V|W|Y"]),
  ("LATIN SMALL LETTER U WITH ", [
    "ACUTE|BREVE|CARON|CIRCUMFLEX|DIAERESIS|DIAERESIS AND ACUTE|DIAERESIS AND CARON|DIAERESIS AND GRAVE",
    "DIAERESIS AND MACRON|DOUBLE ACUTE|DOUBLE GRAVE|GRAVE|HORN|INVERTED BREVE|MACRON|OGONEK|RING ABOVE|TILDE"]),
  ("LATIN SMALL LETTER Y WITH ", ["ACUTE|CIRCUMFLEX|DIAERESIS|HOOK|MACRON|STROKE"]),
  ("LATIN SMALL LETTER Z WITH ", ["ACUTE|CARON|CURL|DOT ABOVE|HOOK|RETROFLEX HOOK|STROKE|SWASH TAIL"]),
  ("LATIN SMALL LIGATURE ", ["FF|FFI|FFL|FI|FL|IJ|LONG S T|OE|ST"]),
  ("LATIN SUBSCRIPT SMALL LETTER ", ["A|E|H|K|L|M|N|O|P|S|SCHWA|T|X"]),
  ("LEFT ", [
    "ANGER BUBBLE|ANGLE BRACKET|ARROW WITH CIRCLED PLUS|ARROW WITH SMALL CIRCLE|BLACK LENTICULAR BRACKET|CEILING",
    "CLOSED ENTRY|CORNER BRACKET|CURLY BRACKET|CURLY BRACKET LOWER HOOK|CURLY BRACKET MIDDLE PIECE",
    "CURLY BRACKET UPPER HOOK|DOUBLE ANGLE BRACKET|DOUBLE QUOTATION MARK|FIVE EIGHTHS BLOCK|FLOOR|HAND TELEPHONE RECEIVER",
    "LUGGAGE|NORMAL FACTOR SEMIDIRECT PRODUCT|ONE EIGHTH BLOCK|ONE QUARTER BLOCK|PARENTHESIS|PARENTHESIS EXTENSION",
    "PARENTHESIS LOWER HOOK|PARENTHESIS UPPER HOOK|SEMIDIRECT PRODUCT|SEVEN EIGHTHS BLOCK|SINGLE QUOTATION MARK",
    "SPEECH BUBBLE|SQUARE BRACKET|SQUARE BRACKET EXTENSION|SQUARE BRACKET LOWER CORNER|SQUARE BRACKET UPPER CORNER",
    "SQUARE BRACKET WITH QUILL|TACK|THOUGHT BUBBLE|THREE EIGHTHS BLOCK|THREE QUARTERS BLOCK|TORTOISE SHELL BRACKET",
    "VERTICAL BOX LINE|WHITE CORNER BRACKET|WHITE LENTICULAR BRACKET|WHITE SQUARE BRACKET|WHITE TORTOISE SHELL BRACKET",
    "WRITING HAND"]),
  ("LEFT HALF ", [
    "BLACK CIRCLE|BLACK STAR|BLOCK|CIRCLE|CIRCLE WITH DOT|CIRCLE WITH FOUR DOTS|CIRCLE WITH THREE DOTS",
    "CIRCLE WITH TWO DOTS"]),
  ("LEFT RIGHT ", [
    "ARROW|ARROW WITH DOUBLE VERTICAL STROKE|ARROW WITH STROKE|ARROW WITH VERTICAL STROKE|BLACK ARROW|DOUBLE ARROW",
    "DOUBLE ARROW WITH STROKE|OPEN-HEADED ARROW|TRIANGLE-HEADED ARROW|WAVE ARROW|WHITE ARROW"]),
  ("LEFTWARDS ", [
    "ARROW|BLACK ARROW|BLACK CIRCLED WHITE ARROW|DASHED ARROW|DOUBLE ARROW|DOUBLE ARROW WITH STROKE|HAND",
    "HARPOON OVER RIGHTWARDS HARPOON|HARPOON WITH BARB DOWNWARDS|HARPOON WITH BARB UPWARDS|OPEN-HEADED ARROW",
    "PAIRED ARROWS|QUADRUPLE ARROW|SQUIGGLE ARROW|TRIPLE ARROW|TWO HEADED ARROW|TWO-HEADED ARROW FROM BAR",
    "TWO-HEADED TRIPLE DASH ARROW|WAVE ARROW|WHITE ARROW"]),
  ("LEFTWARDS ARROW ", [
    "ABOVE ALMOST EQUAL TO|ABOVE REVERSE ALMOST EQUAL TO|ABOVE REVERSE TILDE OPERATOR|FROM BAR|OVER RIGHTWARDS ARROW",
    "THROUGH X|TO BAR|TO BAR OVER RIGHTWARDS ARROW TO BAR"]),
  ("LEFTWARDS ARROW WITH ", [
    "DOTTED STEM|DOUBLE VERTICAL STROKE|HOOK|LOOP|STROKE|TAIL|TAIL WITH DOUBLE VERTICAL STROKE|TAIL WITH VERTICAL STROKE",
    "TIP DOWNWARDS|TIP UPWARDS|VERTICAL STROKE"]),
  ("LEFTWARDS TRIANGLE-HEADED ", [
    "ARROW|ARROW OVER RIGHTWARDS TRIANGLE-HEADED ARROW|ARROW TO BAR|ARROW WITH DOUBLE HORIZONTAL STROKE",
    "ARROW WITH LONG TIP DOWNWARDS|ARROW WITH LONG TIP UPWARDS|DASHED ARROW|PAIRED ARROWS"]),
  ("LEFTWARDS TWO-HEADED ARROW WITH ", [
    "DOUBLE VERTICAL STROKE|TAIL|TAIL WITH DOUBLE VERTICAL STROKE|TAIL WITH VERTICAL STROKE|TRIANGLE ARROWHEADS",
    "VERTICAL STROKE"]),
  ("LESS-THAN ", [
    "BUT NOT EQUAL TO|BUT NOT EQUIVALENT TO|EQUAL TO OR GREATER-THAN|OR EQUAL TO|OR EQUIVALENT TO|OR GREATER-THAN",
    "OVER EQUAL TO|SIGN|WITH DOT"]),
  ("LIGHT ", [
    "CHECK MARK|FOUR POINTED BLACK CUSP|LEFT TORTOISE SHELL BRACKET ORNAMENT|RAIL|RIGHT TORTOISE SHELL BRACKET ORNAMENT",
    "SHADE|VERTICAL BAR"]),
  ("LONG ", [
    "DRUM|LEFT RIGHT ARROW|LEFT RIGHT DOUBLE ARROW|LEFTWARDS ARROW|LEFTWARDS ARROW FROM BAR|LEFTWARDS DOUBLE ARROW",
    "LEFTWARDS DOUBLE ARROW FROM BAR|LEFTWARDS SQUIGGLE ARROW|RIGHTWARDS ARROW|RIGHTWARDS ARROW FROM BAR",
    "RIGHTWARDS DOUBLE ARROW|RIGHTWARDS DOUBLE ARROW FROM BAR|RIGHTWARDS SQUIGGLE ARROW"]),
  ("LOWER ", [
    "BLADE SCISSORS|FIVE EIGHTHS BLOCK|HALF BLOCK|HALF CIRCLE|HALF INVERSE WHITE CIRCLE|ONE EIGHTH BLOCK",
    "ONE QUARTER BLOCK|SEVEN EIGHTHS BLOCK|THREE EIGHTHS BLOCK|THREE QUARTERS BLOCK"]),
  ("LOWER LEFT ", ["BALLPOINT PEN|CRAYON|FOUNTAIN PEN|PAINTBRUSH|PENCIL|QUADRANT CIRCULAR ARC|TRIANGLE"]),
  ("LOWER RIGHT ", [
    "DROP-SHADOWED WHITE SQUARE|PENCIL|QUADRANT CIRCULAR ARC|SHADOWED WHITE CIRCLE|SHADOWED WHITE SQUARE|TRIANGLE"]),
  ("MAN ", ["AND WOMAN HOLDING HANDS|DANCING|IN BUSINESS SUIT LEVITATING|IN TUXEDO|WITH GUA PI MAO|WITH TURBAN"]),
  ("MEDIUM ", [
    "BLACK CIRCLE|FLATTENED LEFT PARENTHESIS ORNAMENT|FLATTENED RIGHT PARENTHESIS ORNAMENT|LEFT CURLY BRACKET ORNAMENT",
    "LEFT PARENTHESIS ORNAMENT|LEFT-POINTING ANGLE BRACKET ORNAMENT|MATHEMATICAL SPACE|RIGHT CURLY BRACKET ORNAMENT",
    "RIGHT PARENTHESIS ORNAMENT|RIGHT-POINTING ANGLE BRACKET ORNAMENT|SHADE|SMALL WHITE CIRCLE|VERTICAL BAR|WHITE CIRCLE"]),
  ("METRICAL ", [
    "BREVE|LONG OVER SHORT|LONG OVER TWO SHORTS|PENTASEME|SHORT OVER LONG|TETRASEME|TRISEME|TWO SHORTS JOINED",
    "TWO SHORTS OVER LONG"]),
  ("MODIFIER LETTER ", [
    "ACUTE ACCENT|APOSTROPHE|BEGIN HIGH TONE|BEGIN LOW TONE|CENTRED LEFT HALF RING|CENTRED RIGHT HALF RING",
    "CIRCUMFLEX ACCENT|CROSS ACCENT|DOUBLE APOSTROPHE|DOUBLE PRIME|DOWN ARROWHEAD|DOWN TACK|END HIGH TONE|END LOW TONE",
    "EXTRA-HIGH TONE BAR|EXTRA-LOW TONE BAR|GLOTTAL STOP|GRAVE ACCENT|HALF TRIANGULAR COLON|HIGH TONE BAR|LEFT ARROWHEAD",
    "LEFT HALF RING|MACRON|MID TONE BAR|MIDDLE DOUBLE ACUTE ACCENT|MIDDLE DOUBLE GRAVE ACCENT|MIDDLE GRAVE ACCENT",
    "MINUS SIGN|OPEN SHELF|PLUS SIGN|PRIME|RAISED COLON|REVERSED COMMA|REVERSED GLOTTAL STOP|RHOTIC HOOK|RIGHT ARROWHEAD",
    "RIGHT HALF RING|SHELF|TRIANGULAR COLON|TURNED COMMA|UNASPIRATED|UP ARROWHEAD|UP TACK|VERTICAL LINE|VOICING",
    "YANG DEPARTING TONE MARK|YIN DEPARTING TONE MARK"]),
  ("MODIFIER LETTER LOW ", [
    "ACUTE ACCENT|DOWN ARROWHEAD|GRAVE ACCENT|LEFT ARROW|LEFT ARROWHEAD|MACRON|RIGHT ARROWHEAD|RING|TILDE|TONE BAR",
    "UP ARROWHEAD|VERTICAL LINE"]),
  ("MODIFIER LETTER SMALL ", [
    "CAPITAL INVERTED R|GAMMA|H|H WITH HOOK|J|L|R|REVERSED GLOTTAL STOP|S|TURNED R|TURNED R WITH HOOK|W|X|Y"]),
  ("N-ARY ", ["COPRODUCT|INTERSECTION|LOGICAL AND|LOGICAL OR|PRODUCT|SUMMATION|UNION"]),
  ("NEGATIVE CIRCLED LATIN CAPITAL LETTER ", ["A|B|C|D|E|F|G|H|I|J|K|L|M|N|O|P|Q|R|S|T|U|V|W|X|Y|Z"]),
  ("NEGATIVE CIRCLED NUMBER ", ["EIGHTEEN|ELEVEN|FIFTEEN|FOURTEEN|NINETEEN|SEVENTEEN|SIXTEEN|THIRTEEN|TWELVE|TWENTY"]),
  ("NEGATIVE SQUARED ", ["AB|CROSS MARK|IC|PA|SA|WC"]),
  ("NEGATIVE SQUARED LATIN CAPITAL LETTER ", ["A|B|C|D|E|F|G|H|I|J|K|L|M|N|O|P|Q|R|S|T|U|V|W|X|Y|Z"]),
  ("NEITHER ", [
    "A SUBSET OF NOR EQUAL TO|A SUPERSET OF NOR EQUAL TO|APPROXIMATELY NOR ACTUALLY EQUAL TO|GREATER-THAN NOR EQUAL TO",
    "GREATER-THAN NOR EQUIVALENT TO|GREATER-THAN NOR LESS-THAN|LESS-THAN NOR EQUAL TO|LESS-THAN NOR EQUIVALENT TO",
    "LESS-THAN NOR GREATER-THAN"]),
  ("NO ", [
    "BICYCLES|BREAK HERE|ENTRY|ENTRY SIGN|MOBILE PHONES|ONE UNDER EIGHTEEN SYMBOL|PEDESTRIANS|PIRACY|SMOKING SYMBOL"]),
  ("NORTH EAST ", ["ARROW|BLACK ARROW|DOUBLE ARROW|TRIANGLE-HEADED ARROW|TRIANGLE-HEADED ARROW TO BAR|WHITE ARROW"]),
  ("NORTH WEST ", [
    "ARROW|ARROW TO CORNER|ARROW TO LONG BAR|BLACK ARROW|DOUBLE ARROW|TRIANGLE-HEADED ARROW|TRIANGLE-HEADED ARROW TO BAR",
    "WHITE ARROW"]),
  ("NOT ", [
    "A SUBSET OF|A SUPERSET OF|ALMOST EQUAL TO|AN ELEMENT OF|ASYMPTOTICALLY EQUAL TO|CHECK MARK|EQUAL TO|EQUIVALENT TO",
    "GREATER-THAN|IDENTICAL TO|LESS-THAN|NORMAL SUBGROUP OF|NORMAL SUBGROUP OF OR EQUAL TO|PARALLEL TO|SIGN",
    "SQUARE IMAGE OF OR EQUAL TO|SQUARE ORIGINAL OF OR EQUAL TO|TILDE|TRUE"]),
  ("NUMBER ", [
    "EIGHTEEN FULL STOP|ELEVEN FULL STOP|FIFTEEN FULL STOP|FOURTEEN FULL STOP|NINETEEN FULL STOP|SEVENTEEN FULL STOP|SIGN",
    "SIXTEEN FULL STOP|TEN FULL STOP|THIRTEEN FULL STOP|TWELVE FULL STOP|TWENTY FULL STOP"]),
  ("OPEN ", [
    "BOOK|CENTRE ASTERISK|CENTRE BLACK STAR|CENTRE CROSS|CENTRE TEARDROP-SPOKED ASTERISK|FILE FOLDER|FOLDER|HANDS SIGN",
    "LOCK|MAILBOX WITH LOWERED FLAG|MAILBOX WITH RAISED FLAG"]),
  ("PARENTHESIZED DIGIT ", ["EIGHT|FIVE|FOUR|NINE|ONE|SEVEN|SIX|THREE|TWO"]),
  ("PARENTHESIZED LATIN CAPITAL LETTER ", ["A|B|C|D|E|F|G|H|I|J|K|L|M|N|O|P|Q|R|S|T|U|V|W|X|Y|Z"]),
  ("PARENTHESIZED LATIN SMALL LETTER ", ["A|B|C|D|E|F|G|H|I|J|K|L|M|N|O|P|Q|R|S|T|U|V|W|X|Y|Z"]),
  ("PARENTHESIZED NUMBER ", ["EIGHTEEN|ELEVEN|FIFTEEN|FOURTEEN|NINETEEN|SEVENTEEN|SIXTEEN|TEN|THIRTEEN|TWELVE|TWENTY"]),
  ("PERSON ", [
    "BOWING DEEPLY|CLIMBING|DOING CARTWHEEL|FROWNING|IN LOTUS POSITION|IN STEAMY ROOM|RAISING BOTH HANDS IN CELEBRATION"]),
  ("PERSON WITH ", ["BALL|BLOND HAIR|CROWN|FOLDED HANDS|HEADSCARF|POUTING FACE"]),
  ("QUADRANT UPPER ", [
    "LEFT|LEFT AND LOWER LEFT AND LOWER RIGHT|LEFT AND LOWER RIGHT|LEFT AND UPPER RIGHT AND LOWER LEFT",
    "LEFT AND UPPER RIGHT AND LOWER RIGHT|RIGHT|RIGHT AND LOWER LEFT|RIGHT AND LOWER LEFT AND LOWER RIGHT"]),
  ("RAISED ", [
    "BACK OF HAND|FIST|HAND|HAND WITH FINGERS SPLAYED|HAND WITH PART BETWEEN MIDDLE AND RING FINGERS|MC SIGN|MD SIGN",
    "MR SIGN"]),
  ("RECYCLING SYMBOL FOR ", [
    "GENERIC MATERIALS|TYPE-1 PLASTICS|TYPE-2 PLASTICS|TYPE-3 PLASTICS|TYPE-4 PLASTICS|TYPE-5 PLASTICS|TYPE-6 PLASTICS",
    "TYPE-7 PLASTICS"]),
  ("REGIONAL INDICATOR SYMBOL LETTER ", ["A|B|C|D|E|F|G|H|I|J|K|L|M|N|O|P|Q|R|S|T|U|V|W|X|Y|Z"]),
  ("REVERSED ", [
    "DOUBLE PRIME|DOUBLE PRIME QUOTATION MARK|HAND WITH MIDDLE FINGER EXTENDED|NOT SIGN|PILCROW SIGN|PRIME",
    "RAISED HAND WITH FINGERS SPLAYED|RIGHT ANGLE|ROTATED FLORAL HEART BULLET|SANS-SERIF CAPITAL L|SEMICOLON",
    "THUMBS DOWN SIGN|THUMBS UP SIGN|TILDE|TILDE EQUALS|TRIPLE PRIME|VICTORY HAND"]),
  ("RIBBON ARROW ", ["DOWN LEFT|DOWN RIGHT|LEFT DOWN|LEFT UP|RIGHT DOWN|RIGHT UP|UP LEFT|UP RIGHT"]),
  ("RIGHT ", [
    "ANGER BUBBLE|ANGLE|ANGLE BRACKET|ANGLE WITH ARC|ANGLE WITH DOWNWARDS ZIGZAG ARROW|ARROW WITH CIRCLED PLUS",
    "ARROW WITH SMALL CIRCLE|BLACK LENTICULAR BRACKET|CEILING|CORNER BRACKET|CURLY BRACKET|CURLY BRACKET LOWER HOOK",
    "CURLY BRACKET MIDDLE PIECE|CURLY BRACKET UPPER HOOK|DOUBLE ANGLE BRACKET|DOUBLE QUOTATION MARK|FLOOR",
    "HALF BLACK CIRCLE|HALF BLACK STAR|HALF BLOCK|HAND TELEPHONE RECEIVER|NORMAL FACTOR SEMIDIRECT PRODUCT",
    "ONE EIGHTH BLOCK|PARENTHESIS|PARENTHESIS EXTENSION|PARENTHESIS LOWER HOOK|PARENTHESIS UPPER HOOK|SEMIDIRECT PRODUCT",
    "SINGLE QUOTATION MARK|SPEAKER|SPEAKER WITH ONE SOUND WAVE|SPEAKER WITH THREE SOUND WAVES|SPEECH BUBBLE",
    "SQUARE BRACKET|SQUARE BRACKET EXTENSION|SQUARE BRACKET LOWER CORNER|SQUARE BRACKET UPPER CORNER",
    "SQUARE BRACKET WITH QUILL|TACK|THOUGHT BUBBLE|TORTOISE SHELL BRACKET|TRIANGLE|VERTICAL BOX LINE|WHITE CORNER BRACKET",
    "WHITE LENTICULAR BRACKET|WHITE SQUARE BRACKET|WHITE TORTOISE SHELL BRACKET"]),
  ("RIGHTWARDS ", [
    "ARROW|BLACK ARROW|BLACK CIRCLED WHITE ARROW|DASHED ARROW|DOUBLE ARROW|DOUBLE ARROW WITH STROKE|HAND",
    "HARPOON OVER LEFTWARDS HARPOON|HARPOON WITH BARB DOWNWARDS|HARPOON WITH BARB UPWARDS|OPEN-HEADED ARROW|PAIRED ARROWS",
    "QUADRUPLE ARROW|SQUIGGLE ARROW|TRIPLE ARROW|TWO HEADED ARROW|TWO-HEADED ARROW WITH TRIANGLE ARROWHEADS|WAVE ARROW",
    "WHITE ARROW|WHITE ARROW FROM WALL"]),
  ("RIGHTWARDS ARROW ", [
    "ABOVE REVERSE ALMOST EQUAL TO|ABOVE REVERSE TILDE OPERATOR|FROM BAR|OVER LEFTWARDS ARROW|THROUGH GREATER-THAN",
    "THROUGH SUPERSET|TO BAR"]),
  ("RIGHTWARDS ARROW WITH ", [
    "CORNER DOWNWARDS|DOUBLE VERTICAL STROKE|HOOK|LOOP|STROKE|TAIL|TIP DOWNWARDS|TIP UPWARDS|VERTICAL STROKE"]),
  ("RIGHTWARDS TRIANGLE-HEADED ", [
    "ARROW|ARROW OVER LEFTWARDS TRIANGLE-HEADED ARROW|ARROW TO BAR|ARROW WITH DOUBLE HORIZONTAL STROKE",
    "ARROW WITH LONG TIP DOWNWARDS|ARROW WITH LONG TIP UPWARDS|DASHED ARROW|PAIRED ARROWS"]),
  ("ROMAN NUMERAL ", [
    "EIGHT|ELEVEN|FIFTY|FIFTY EARLY FORM|FIFTY THOUSAND|FIVE|FIVE HUNDRED|FIVE THOUSAND|FOUR|NINE|ONE|ONE HUNDRED",
    "ONE HUNDRED THOUSAND|ONE THOUSAND|ONE THOUSAND C D|REVERSED ONE HUNDRED|SEVEN|SIX|SIX LATE FORM|TEN|TEN THOUSAND",
    "THREE|TWELVE|TWO"]),
  ("RUSSIAN ASTROLOGICAL SYMBOL ", ["BINOVILE|NOVILE|QUINTILE|SENTAGON|TREDECILE|VIGINTILE"]),
  ("SCRIPT CAPITAL ", ["B|E|F|H|I|L|M|P|R"]),
  ("SIDEWAYS ", [
    "BLACK DOWN POINTING INDEX|BLACK LEFT POINTING INDEX|BLACK RIGHT POINTING INDEX|BLACK UP POINTING INDEX",
    "WHITE DOWN POINTING INDEX|WHITE LEFT POINTING INDEX|WHITE RIGHT POINTING INDEX|WHITE UP POINTING INDEX"]),
  ("SINGLE ", [
    "CHARACTER INTRODUCER|GRAPHIC CHARACTER INTRODUCER|HIGH-REVERSED-9 QUOTATION MARK|LEFT-POINTING ANGLE QUOTATION MARK",
    "LOW-9 QUOTATION MARK|RIGHT-POINTING ANGLE QUOTATION MARK|SHIFT THREE|SHIFT TWO"]),
  ("SMALL ", [
    "AIRPLANE|BLUE DIAMOND|CONTAINS AS MEMBER|CONTAINS WITH OVERBAR",
    "CONTAINS WITH VERTICAL BAR AT END OF HORIZONTAL STROKE|ELEMENT OF|ELEMENT OF WITH OVERBAR",
    "ELEMENT OF WITH VERTICAL BAR AT END OF HORIZONTAL STROKE|ORANGE DIAMOND|TILDE"]),
  ("SMALL ROMAN NUMERAL ", [
    "EIGHT|ELEVEN|FIFTY|FIVE|FIVE HUNDRED|FOUR|NINE|ONE|ONE HUNDRED|ONE THOUSAND|SEVEN|SIX|TEN|THREE|TWELVE|TWO"]),
  ("SMILING FACE WITH ", [
    "HALO|HEART-SHAPED EYES|HORNS|OPEN MOUTH|OPEN MOUTH AND COLD SWEAT|OPEN MOUTH AND SMILING EYES",
    "OPEN MOUTH AND TIGHTLY-CLOSED EYES|SMILING EYES|SMILING EYES AND HAND COVERING MOUTH|SMILING EYES AND THREE HEARTS",
    "SUNGLASSES|TEAR"]),
  ("SOUTH EAST ", [
    "ARROW|ARROW TO CORNER|BLACK ARROW|DOUBLE ARROW|TRIANGLE-HEADED ARROW|TRIANGLE-HEADED ARROW TO BAR|WHITE ARROW"]),
  ("SOUTH WEST ", ["ARROW|BLACK ARROW|DOUBLE ARROW|TRIANGLE-HEADED ARROW|TRIANGLE-HEADED ARROW TO BAR|WHITE ARROW"]),
  ("SQUARE ", [
    "CAP|CUP|DJ|FOOT|FOUR CORNERS|IMAGE OF|IMAGE OF OR EQUAL TO|IMAGE OF OR NOT EQUAL TO|LOZENGE|ORIGINAL OF",
    "ORIGINAL OF OR EQUAL TO|ORIGINAL OF OR NOT EQUAL TO|POSITION INDICATOR|ROOT"]),
  ("SQUARE WITH ", [
    "BOTTOM HALF BLACK|DIAGONAL CROSSHATCH FILL|HORIZONTAL FILL|LEFT HALF BLACK|LOWER LEFT DIAGONAL HALF BLACK",
    "LOWER RIGHT DIAGONAL HALF BLACK|ORTHOGONAL CROSSHATCH FILL|RIGHT HALF BLACK|TOP HALF BLACK",
    "UPPER LEFT DIAGONAL HALF BLACK|UPPER LEFT TO LOWER RIGHT FILL|UPPER RIGHT DIAGONAL HALF BLACK",
    "UPPER RIGHT TO LOWER LEFT FILL|VERTICAL FILL"]),
  ("SQUARED ", [
    "CL|COOL|DOT OPERATOR|EIGHT K|FIVE POINT ONE|FOUR K|FREE|HC|HDR|HI-RES|HV|ID|KEY|LATIN SMALL LETTER D|LOSSLESS|MINUS",
    "MV|NEW|NG|OK|ONE HUNDRED TWENTY P|PLUS|PPV|SALTIRE|SD|SECOND SCREEN|SEVEN POINT ONE|SHV|SIXTY P|SOS|SS|THREE D|TIMES",
    "TWENTY-TWO POINT TWO|TWO K|UHD|UP WITH EXCLAMATION MARK|VOD|VS|WC"]),
  ("SQUARED LATIN CAPITAL LETTER ", ["A|B|C|D|E|F|G|H|I|J|K|L|M|N|O|P|Q|R|S|T|U|V|W|X|Y|Z"]),
  ("STAR ", ["AND CRESCENT|EQUALS|OF DAVID|OPERATOR|WITH LEFT HALF BLACK|WITH RIGHT HALF BLACK"]),
  ("START OF ", ["GUARDED AREA|HEADING|PROTECTED AREA|SELECTED AREA|STRING|TEXT"]),
  ("SUBSCRIPT ", [
    "EIGHT|EQUALS SIGN|FIVE|FOUR|LEFT PARENTHESIS|MINUS|NINE|ONE|PLUS SIGN|RIGHT PARENTHESIS|SEVEN|SIX|THREE|TWO|ZERO"]),
  ("SUPERSCRIPT ", [
    "EIGHT|EQUALS SIGN|FIVE|FOUR|LATIN SMALL LETTER I|LATIN SMALL LETTER N|LEFT PARENTHESIS|MINUS|NINE|ONE|PLUS SIGN",
    "RIGHT PARENTHESIS|SEVEN|SIX|THREE|TWO|ZERO"]),
  ("TELEPHONE ", ["LOCATION SIGN|ON TOP OF MODEM|RECEIVER|RECEIVER WITH PAGE|RECORDER|SIGN"]),
  ("THREE ", [
    "BUTTON MOUSE|DOT PUNCTUATION|LEFTWARDS ARROWS|LINES CONVERGING LEFT|LINES CONVERGING RIGHT|NETWORKED COMPUTERS",
    "RAYS ABOVE|RAYS BELOW|RAYS LEFT|RAYS RIGHT|RIGHTWARDS ARROWS|SPEECH BUBBLES"]),
  ("THREE-D ", [
    "BOTTOM-LIGHTED RIGHTWARDS ARROWHEAD|LEFT-LIGHTED DOWNWARDS EQUILATERAL ARROWHEAD",
    "RIGHT-LIGHTED UPWARDS EQUILATERAL ARROWHEAD|TOP-LIGHTED LEFTWARDS EQUILATERAL ARROWHEAD",
    "TOP-LIGHTED RIGHTWARDS ARROWHEAD|TOP-LIGHTED RIGHTWARDS EQUILATERAL ARROWHEAD"]),
  ("TOP ", [
    "CURLY BRACKET|HALF BLACK CIRCLE|HALF INTEGRAL|HAT|LEFT CORNER|LEFT CROP|PARENTHESIS|RIGHT CORNER|RIGHT CROP",
    "SQUARE BRACKET|TORTOISE SHELL BRACKET|WITH UPWARDS ARROW ABOVE"]),
  ("TRIGRAM FOR ", ["EARTH|FIRE|HEAVEN|LAKE|MOUNTAIN|THUNDER|WATER|WIND"]),
  ("TURNED ", [
    "AMPERSAND|BLACK PENTAGON|BLACK SHOGI PIECE|CAPITAL F|DIGIT THREE|DIGIT TWO|GREEK SMALL LETTER IOTA|NOT SIGN",
    "OK HAND SIGN|SANS-SERIF CAPITAL G|SANS-SERIF CAPITAL L|SANS-SERIF CAPITAL Y|SMALL F|WHITE SHOGI PIECE"]),
  ("TWO ", [
    "ASTERISKS ALIGNED VERTICALLY|BUTTON MOUSE|DOT LEADER|DOT PUNCTUATION|HEARTS|MEN HOLDING HANDS|SPEECH BUBBLES",
    "WOMEN HOLDING HANDS"]),
  ("UP DOWN ", ["ARROW|ARROW WITH BASE|BLACK ARROW|DOUBLE ARROW|TRIANGLE-HEADED ARROW|WHITE ARROW"]),
  ("UP-POINTING ", [
    "AIRPLANE|MILITARY AIRPLANE|RED TRIANGLE|SMALL AIRPLANE|SMALL RED TRIANGLE|TRIANGLE WITH LEFT HALF BLACK",
    "TRIANGLE WITH RIGHT HALF BLACK"]),
  ("UPPER ", [
    "BLADE SCISSORS|HALF BLOCK|HALF CIRCLE|HALF INVERSE WHITE CIRCLE|LEFT OR LOWER RIGHT CURLY BRACKET SECTION",
    "LEFT QUADRANT CIRCULAR ARC|LEFT TRIANGLE|ONE EIGHTH BLOCK"]),
  ("UPPER RIGHT ", [
    "DROP-SHADOWED WHITE SQUARE|OR LOWER LEFT CURLY BRACKET SECTION|PENCIL|QUADRANT CIRCULAR ARC|SHADOWED WHITE CIRCLE",
    "SHADOWED WHITE SQUARE|TRIANGLE"]),
  ("UPWARDS ", [
    "ARROW|ARROW FROM BAR|ARROW LEFTWARDS OF DOWNWARDS ARROW|ARROW WITH DOUBLE STROKE|ARROW WITH TIP LEFTWARDS",
    "ARROW WITH TIP RIGHTWARDS|BLACK ARROW|BLACK CIRCLED WHITE ARROW|DASHED ARROW|DOUBLE ARROW",
    "HARPOON WITH BARB LEFTWARDS|HARPOON WITH BARB RIGHTWARDS|PAIRED ARROWS|QUADRUPLE ARROW|TWO HEADED ARROW",
    "TWO-HEADED ARROW WITH TRIANGLE ARROWHEADS"]),
  ("UPWARDS TRIANGLE-HEADED ", [
    "ARROW|ARROW LEFTWARDS OF DOWNWARDS TRIANGLE-HEADED ARROW|ARROW TO BAR|ARROW WITH DOUBLE HORIZONTAL STROKE",
    "ARROW WITH LONG TIP LEFTWARDS|ARROW WITH LONG TIP RIGHTWARDS|DASHED ARROW|PAIRED ARROWS"]),
  ("UPWARDS WHITE ", [
    "ARROW|ARROW FROM BAR|ARROW FROM BAR WITH HORIZONTAL BAR|ARROW ON PEDESTAL|ARROW ON PEDESTAL WITH HORIZONTAL BAR",
    "ARROW ON PEDESTAL WITH VERTICAL BAR|DOUBLE ARROW|DOUBLE ARROW ON PEDESTAL"]),
  ("VARIATION ", [
    "SELECTOR-1|SELECTOR-10|SELECTOR-11|SELECTOR-12|SELECTOR-13|SELECTOR-14|SELECTOR-15|SELECTOR-16|SELECTOR-2|SELECTOR-3",
    "SELECTOR-4|SELECTOR-5|SELECTOR-6|SELECTOR-7|SELECTOR-8|SELECTOR-9"]),
  ("VERTICAL ", [
    "ELLIPSIS|FOUR DOTS|IDEOGRAPHIC ITERATION MARK|KANA REPEAT MARK|KANA REPEAT MARK LOWER HALF",
    "KANA REPEAT MARK UPPER HALF|KANA REPEAT WITH VOICED SOUND MARK|KANA REPEAT WITH VOICED SOUND MARK UPPER HALF|LINE",
    "LINE EXTENSION|LINE WITH MIDDLE DOT|MALE WITH STROKE SIGN|TAB KEY|TABULATION|TABULATION SET|TRAFFIC LIGHT"]),
  ("VULGAR FRACTION ", [
    "FIVE EIGHTHS|FIVE SIXTHS|FOUR FIFTHS|SEVEN EIGHTHS|THREE EIGHTHS|THREE FIFTHS|THREE QUARTERS|TWO FIFTHS|TWO THIRDS",
    "ZERO THIRDS"]),
  ("VULGAR FRACTION ONE ", ["EIGHTH|FIFTH|HALF|NINTH|QUARTER|SEVENTH|SIXTH|TENTH|THIRD"]),
  ("WHITE ", [
    "BULLET|CIRCLE|CLUB SUIT|DIAMOND|DIAMOND CONTAINING BLACK SMALL DIAMOND|DIAMOND IN SQUARE|DIAMOND SUIT",
    "DOWN POINTING BACKHAND INDEX|DOWN POINTING INDEX|DOWN POINTING LEFT HAND INDEX|DOWN-POINTING SMALL TRIANGLE",
    "DOWN-POINTING TRIANGLE|DRAUGHTS KING|DRAUGHTS MAN|EXCLAMATION MARK ORNAMENT|FLAG",
    "FLAG WITH HORIZONTAL MIDDLE BLACK STRIPE|FLORETTE|FLOWER|FOUR POINTED CUSP|FOUR POINTED STAR|FROWNING FACE",
    "HARD SHELL FLOPPY DISK|HEART|HEART SUIT|HEAVY CHECK MARK|HEXAGON|HORIZONTAL ELLIPSE|LARGE SQUARE|LATIN CROSS",
    "LEFT LANE MERGE|LEFT POINTING BACKHAND INDEX|LEFT POINTING INDEX|LEFT-POINTING POINTER|LEFT-POINTING SMALL TRIANGLE",
    "LEFT-POINTING TRIANGLE|MEDIUM DIAMOND|MEDIUM LOZENGE|MEDIUM SMALL SQUARE|MEDIUM SQUARE|MEDIUM STAR|MOON SELENA|NIB",
    "PARALLELOGRAM|PENNANT|PENTAGON|QUESTION MARK ORNAMENT|RECTANGLE|RIGHT POINTING BACKHAND INDEX|RIGHT POINTING INDEX",
    "RIGHT-POINTING PENTAGON|RIGHT-POINTING POINTER|RIGHT-POINTING SMALL TRIANGLE|RIGHT-POINTING TRIANGLE|SCISSORS",
    "SHOGI PIECE|SMALL LOZENGE|SMALL SQUARE|SMALL STAR|SMILING FACE|SPADE SUIT|SQUARE|SQUARE BUTTON",
    "SQUARE CONTAINING BLACK SMALL SQUARE|STAR|SUN|SUN BEHIND CLOUD|SUN BEHIND CLOUD WITH RAIN|SUN WITH RAYS",
    "SUN WITH SMALL CLOUD|TELEPHONE|TOUCHTONE TELEPHONE|TRAPEZIUM|TWO-WAY LEFT WAY TRAFFIC|UP POINTING BACKHAND INDEX",
    "UP POINTING INDEX|UP-POINTING SMALL TRIANGLE|UP-POINTING TRIANGLE|UP-POINTING TRIANGLE WITH DOT|VERTICAL ELLIPSE",
    "VERTICAL RECTANGLE|VERY SMALL SQUARE"]),
  ("WHITE CHESS ", ["BISHOP|KING|KNIGHT|PAWN|QUEEN|ROOK"]),
  ("WHITE CIRCLE WITH ", [
    "DOT RIGHT|LOWER LEFT QUADRANT|LOWER RIGHT QUADRANT|TWO DOTS|UPPER LEFT QUADRANT|UPPER RIGHT QUADRANT"]),
  ("WHITE SQUARE WITH ", [
    "CENTRE VERTICAL LINE|LOWER LEFT QUADRANT|LOWER RIGHT QUADRANT|ROUNDED CORNERS|UPPER LEFT QUADRANT",
    "UPPER RIGHT QUADRANT|VERTICAL BISECTING LINE"])]

def ideographs : Ranges := [
  (0x3400, 0x4DBF), (0x4E00, 0x9FFF), (0x20000, 0x2A6DF), (0x2A700, 0x2B738), (0x2B740, 0x2B81D), (0x2B820, 0x2CEA1),
  (0x2CEB0, 0x2EBE0), (0x30000, 0x3134A)]

def namesIdeograph (name : List Char) : Bool :=
  let start := "CJK UNIFIED IDEOGRAPH-".toList
  let digits := name.drop start.length
  start.isPrefixOf name && (digits.length = 4 || digits.length = 5) &&
    digits.all (fun c => c.isDigit || ('A' ≤ c && c ≤ 'F')) &&
    ideographs.contains (digits.foldl (fun code c => code * 16 + (hexDigit? c).getD 0) 0)

def syllableStarts : List String :=
  ["G", "GG", "N", "D", "DD", "R", "M", "B", "BB", "S", "SS", "", "J", "JJ", "C", "K", "T", "P", "H"]

def syllableMiddles : List String :=
  ["A", "AE", "YA", "YAE", "EO", "E", "YEO", "YE", "O", "WA", "WAE", "OE", "YO", "U", "WEO", "WE", "WI", "YU", "EU", "YI", "I"]

def syllableEnds : List String :=
  ["", "G", "GG", "GS", "N", "NJ", "NH", "D", "L", "LG", "LM", "LB", "LS", "LT", "LP", "LH", "M", "B", "BS", "S", "SS", "NG",
    "J", "C", "K", "T", "P", "H"]

def namesSyllable (name : List Char) : Bool :=
  let start := "HANGUL SYLLABLE ".toList
  start.isPrefixOf name &&
    let rest := String.ofList (name.drop start.length)
    syllableStarts.any fun first => syllableMiddles.any fun middle => syllableEnds.any fun last => rest = first ++ middle ++ last

def isListedName (name : List Char) : Bool :=
  let name := name.map Char.toUpper
  characterNames.any fun (start, ends) =>
    start.toList.isPrefixOf name &&
      let rest := name.drop start.length
      ends.any fun line => (pieces (· == '|') line.toList).contains rest

def namesCharacter (name : List Char) : Bool :=
  namesIdeograph name || namesSyllable name || isListedName name

end PluginAudit.Text
