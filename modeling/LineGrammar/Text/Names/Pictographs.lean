import LineGrammar.Text.Names.Basic

/-!
# Names of pictographs

Pictographs, and the characters that tag and select others, by code point.
-/

namespace LineGrammar.Text

/-- Pictographs. -/
def pictographNames : List NameRun :=
  [
    ⟨0x1F300, [
      "0CYCLONE|0FOGGY|0CLOSED UMBRELLA|0NIGHT WITH STARS|0SUNRISE OVER MOUNTAINS|0SUNRISE",
      "0CITYSCAPE AT DUSK|0SUNSET OVER BUILDINGS|0RAINBOW|0BRIDGE AT NIGHT|0WATER WAVE|0VOLCANO",
      "0MILKY WAY|0EARTH GLOBE EUROPE-AFRICA|2AMERICAS|2ASIA-AUSTRALIA|0GLOBE WITH MERIDIANS",
      "0NEW MOON SYMBOL|0WAXING CRESCENT MOON SYMBOL|0FIRST QUARTER MOON SYMBOL",
      "0WAXING GIBBOUS MOON SYMBOL|0FULL MOON SYMBOL|0WANING GIBBOUS MOON SYMBOL",
      "0LAST QUARTER MOON SYMBOL|0WANING CRESCENT MOON SYMBOL|0CRESCENT MOON",
      "0NEW MOON WITH FACE|0FIRST QUARTER MOON WITH FACE|0LAST QUARTER MOON WITH FACE",
      "0FULL MOON WITH FACE|0SUN WITH FACE|0GLOWING STAR|0SHOOTING STAR|0THERMOMETER",
      "0BLACK DROPLET|0WHITE SUN|2WITH SMALL CLOUD|2BEHIND CLOUD|4WITH RAIN|0CLOUD WITH RAIN",
      "2SNOW|2LIGHTNING|2TORNADO|0FOG|0WIND BLOWING FACE|0HOT DOG|0TACO|0BURRITO|0CHESTNUT",
      "0SEEDLING|0EVERGREEN TREE|0DECIDUOUS TREE|0PALM TREE|0CACTUS|0HOT PEPPER|0TULIP",
      "0CHERRY BLOSSOM|0ROSE|0HIBISCUS|0SUNFLOWER|0BLOSSOM|0EAR OF MAIZE|2RICE|0HERB",
      "0FOUR LEAF CLOVER|0MAPLE LEAF|0FALLEN LEAF|0LEAF FLUTTERING IN WIND|0MUSHROOM|0TOMATO",
      "0AUBERGINE|0GRAPES|0MELON|0WATERMELON|0TANGERINE|0LEMON|0BANANA|0PINEAPPLE|0RED APPLE",
      "0GREEN APPLE|0PEAR|0PEACH|0CHERRIES|0STRAWBERRY|0HAMBURGER|0SLICE OF PIZZA|0MEAT ON BONE",
      "0POULTRY LEG|0RICE CRACKER|1BALL|0COOKED RICE|0CURRY AND RICE|0STEAMING BOWL|0SPAGHETTI",
      "0BREAD|0FRENCH FRIES|0ROASTED SWEET POTATO|0DANGO|0ODEN|0SUSHI|0FRIED SHRIMP",
      "0FISH CAKE WITH SWIRL DESIGN|0SOFT ICE CREAM|0SHAVED ICE|0ICE CREAM|0DOUGHNUT|0COOKIE",
      "0CHOCOLATE BAR|0CANDY|0LOLLIPOP|0CUSTARD|0HONEY POT|0SHORTCAKE|0BENTO BOX|0POT OF FOOD",
      "0COOKING|0FORK AND KNIFE|0TEACUP WITHOUT HANDLE|0SAKE BOTTLE AND CUP|0WINE GLASS",
      "0COCKTAIL GLASS|0TROPICAL DRINK|0BEER MUG|0CLINKING BEER MUGS|0BABY BOTTLE",
      "0FORK AND KNIFE WITH PLATE|0BOTTLE WITH POPPING CORK|0POPCORN|0RIBBON|0WRAPPED PRESENT",
      "0BIRTHDAY CAKE|0JACK-O-LANTERN|0CHRISTMAS TREE|0FATHER CHRISTMAS|0FIREWORKS",
      "0FIREWORK SPARKLER|0BALLOON|0PARTY POPPER|0CONFETTI BALL|0TANABATA TREE|0CROSSED FLAGS",
      "0PINE DECORATION|0JAPANESE DOLLS|0CARP STREAMER|0WIND CHIME|0MOON VIEWING CEREMONY",
      "0SCHOOL SATCHEL|0GRADUATION CAP|0HEART WITH TIP ON THE LEFT|0BOUQUET OF FLOWERS",
      "0MILITARY MEDAL|0REMINDER RIBBON|0MUSICAL KEYBOARD WITH JACKS|0STUDIO MICROPHONE",
      "0LEVEL SLIDER|0CONTROL KNOBS|0BEAMED ASCENDING MUSICAL NOTES|1DESCENDING MUSICAL NOTES",
      "0FILM FRAMES|0ADMISSION TICKETS|0CAROUSEL HORSE|0FERRIS WHEEL|0ROLLER COASTER",
      "0FISHING POLE AND FISH|0MICROPHONE|0MOVIE CAMERA|0CINEMA|0HEADPHONE|0ARTIST PALETTE",
      "0TOP HAT|0CIRCUS TENT|0TICKET|0CLAPPER BOARD|0PERFORMING ARTS|0VIDEO GAME|0DIRECT HIT",
      "0SLOT MACHINE|0BILLIARDS|0GAME DIE|0BOWLING|0FLOWER PLAYING CARDS|0MUSICAL NOTE",
      "0MULTIPLE MUSICAL NOTES|0SAXOPHONE|0GUITAR|0MUSICAL KEYBOARD|0TRUMPET|0VIOLIN",
      "0MUSICAL SCORE|0RUNNING SHIRT WITH SASH|0TENNIS RACQUET AND BALL|0SKI AND SKI BOOT",
      "0BASKETBALL AND HOOP|0CHEQUERED FLAG|0SNOWBOARDER|0RUNNER|0SURFER|0SPORTS MEDAL|0TROPHY",
      "0HORSE RACING|0AMERICAN FOOTBALL|0RUGBY FOOTBALL|0SWIMMER|0WEIGHT LIFTER|0GOLFER",
      "0RACING MOTORCYCLE|1CAR|0CRICKET BAT AND BALL|0VOLLEYBALL|0FIELD HOCKEY STICK AND BALL",
      "0ICE HOCKEY STICK AND PUCK|0TABLE TENNIS PADDLE AND BALL|0SNOW CAPPED MOUNTAIN|0CAMPING",
      "0BEACH WITH UMBRELLA|0BUILDING CONSTRUCTION|0HOUSE BUILDINGS|0CITYSCAPE",
      "0DERELICT HOUSE BUILDING|0CLASSICAL BUILDING|0DESERT|1ISLAND|0NATIONAL PARK|0STADIUM",
      "0HOUSE BUILDING|1WITH GARDEN|0OFFICE BUILDING|0JAPANESE POST OFFICE",
      "0EUROPEAN POST OFFICE|0HOSPITAL|0BANK|0AUTOMATED TELLER MACHINE|0HOTEL|0LOVE HOTEL",
      "0CONVENIENCE STORE|0SCHOOL|0DEPARTMENT STORE|0FACTORY|0IZAKAYA LANTERN|0JAPANESE CASTLE",
      "0EUROPEAN CASTLE|0WHITE PENNANT|0BLACK PENNANT|0WAVING WHITE FLAG|1BLACK FLAG|0ROSETTE",
      "0BLACK ROSETTE|0LABEL|0BADMINTON RACQUET AND SHUTTLECOCK|0BOW AND ARROW|0AMPHORA",
      "0EMOJI MODIFIER FITZPATRICK TYPE-1-2|3TYPE-3|3TYPE-4|3TYPE-5|3TYPE-6|0RAT|0MOUSE|0OX",
      "0WATER BUFFALO|0COW|0TIGER|0LEOPARD|0RABBIT|0CAT|0DRAGON|0CROCODILE|0WHALE|0SNAIL|0SNAKE",
      "0HORSE|0RAM|0GOAT|0SHEEP|0MONKEY|0ROOSTER|0CHICKEN|0DOG|0PIG|0BOAR|0ELEPHANT|0OCTOPUS",
      "0SPIRAL SHELL|0BUG|0ANT|0HONEYBEE|0LADY BEETLE|0FISH|0TROPICAL FISH|0BLOWFISH|0TURTLE",
      "0HATCHING CHICK|0BABY CHICK|0FRONT-FACING BABY CHICK|0BIRD|0PENGUIN|0KOALA|0POODLE",
      "0DROMEDARY CAMEL|0BACTRIAN CAMEL|0DOLPHIN|0MOUSE FACE|0COW FACE|0TIGER FACE|0RABBIT FACE",
      "0CAT FACE|0DRAGON FACE|0SPOUTING WHALE|0HORSE FACE|0MONKEY FACE|0DOG FACE|0PIG FACE",
      "0FROG FACE|0HAMSTER FACE|0WOLF FACE|0BEAR FACE|0PANDA FACE|0PIG NOSE|0PAW PRINTS",
      "0CHIPMUNK|0EYES|0EYE|0EAR|0NOSE|0MOUTH|0TONGUE|0WHITE UP POINTING BACKHAND INDEX",
      "1DOWN POINTING BACKHAND INDEX|1LEFT POINTING BACKHAND INDEX",
      "1RIGHT POINTING BACKHAND INDEX|0FISTED HAND SIGN|0WAVING HAND SIGN|0OK HAND SIGN",
      "0THUMBS UP SIGN|1DOWN SIGN|0CLAPPING HANDS SIGN|0OPEN HANDS SIGN|0CROWN|0WOMANS HAT",
      "0EYEGLASSES|0NECKTIE|0T-SHIRT|0JEANS|0DRESS|0KIMONO|0BIKINI|0WOMANS CLOTHES|0PURSE",
      "0HANDBAG|0POUCH|0MANS SHOE|0ATHLETIC SHOE|0HIGH-HEELED SHOE|0WOMANS SANDAL|1BOOTS",
      "0FOOTPRINTS|0BUST IN SILHOUETTE|0BUSTS IN SILHOUETTE|0BOY|0GIRL|0MAN|0WOMAN|0FAMILY",
      "0MAN AND WOMAN HOLDING HANDS|0TWO MEN HOLDING HANDS|1WOMEN HOLDING HANDS|0POLICE OFFICER",
      "0WOMAN WITH BUNNY EARS|0BRIDE WITH VEIL|0PERSON WITH BLOND HAIR|0MAN WITH GUA PI MAO",
      "2TURBAN|0OLDER MAN|1WOMAN|0BABY|0CONSTRUCTION WORKER|0PRINCESS|0JAPANESE OGRE|1GOBLIN",
      "0GHOST|0BABY ANGEL|0EXTRATERRESTRIAL ALIEN|0ALIEN MONSTER|0IMP|0SKULL",
      "0INFORMATION DESK PERSON|0GUARDSMAN|0DANCER|0LIPSTICK|0NAIL POLISH|0FACE MASSAGE",
      "0HAIRCUT|0BARBER POLE|0SYRINGE|0PILL|0KISS MARK|0LOVE LETTER|0RING|0GEM STONE|0KISS",
      "0BOUQUET|0COUPLE WITH HEART|0WEDDING|0BEATING HEART|0BROKEN HEART|0TWO HEARTS",
      "0SPARKLING HEART|0GROWING HEART|0HEART WITH ARROW|0BLUE HEART|0GREEN HEART|0YELLOW HEART",
      "0PURPLE HEART|0HEART WITH RIBBON|0REVOLVING HEARTS|0HEART DECORATION",
      "0DIAMOND SHAPE WITH A DOT INSIDE|0ELECTRIC LIGHT BULB|0ANGER SYMBOL|0BOMB",
      "0SLEEPING SYMBOL|0COLLISION SYMBOL|0SPLASHING SWEAT SYMBOL|0DROPLET|0DASH SYMBOL",
      "0PILE OF POO|0FLEXED BICEPS|0DIZZY SYMBOL|0SPEECH BALLOON|0THOUGHT BALLOON|0WHITE FLOWER",
      "0HUNDRED POINTS SYMBOL|0MONEY BAG|0CURRENCY EXCHANGE|0HEAVY DOLLAR SIGN|0CREDIT CARD",
      "0BANKNOTE WITH YEN SIGN|2DOLLAR SIGN|2EURO SIGN|2POUND SIGN|0MONEY WITH WINGS",
      "0CHART WITH UPWARDS TREND AND YEN SIGN|0SEAT|0PERSONAL COMPUTER|0BRIEFCASE|0MINIDISC",
      "0FLOPPY DISK|0OPTICAL DISC|0DVD|0FILE FOLDER|0OPEN FILE FOLDER|0PAGE WITH CURL",
      "1FACING UP|0CALENDAR|0TEAR-OFF CALENDAR|0CARD INDEX|0CHART WITH UPWARDS TREND",
      "2DOWNWARDS TREND|0BAR CHART|0CLIPBOARD|0PUSHPIN|0ROUND PUSHPIN|0PAPERCLIP",
      "0STRAIGHT RULER|0TRIANGULAR RULER|0BOOKMARK TABS|0LEDGER|0NOTEBOOK",
      "1WITH DECORATIVE COVER|0CLOSED BOOK|0OPEN BOOK|0GREEN BOOK|0BLUE BOOK|0ORANGE BOOK",
      "0BOOKS|0NAME BADGE|0SCROLL|0MEMO|0TELEPHONE RECEIVER|0PAGER|0FAX MACHINE",
      "0SATELLITE ANTENNA|0PUBLIC ADDRESS LOUDSPEAKER|0CHEERING MEGAPHONE|0OUTBOX TRAY",
      "0INBOX TRAY|0PACKAGE|0E-MAIL SYMBOL|0INCOMING ENVELOPE",
      "0ENVELOPE WITH DOWNWARDS ARROW ABOVE|0CLOSED MAILBOX WITH LOWERED FLAG|3RAISED FLAG",
      "0OPEN MAILBOX WITH RAISED FLAG|3LOWERED FLAG|0POSTBOX|0POSTAL HORN|0NEWSPAPER",
      "0MOBILE PHONE|2WITH RIGHTWARDS ARROW AT LEFT|0VIBRATION MODE|0MOBILE PHONE OFF",
      "0NO MOBILE PHONES|0ANTENNA WITH BARS|0CAMERA|1WITH FLASH|0VIDEO CAMERA|0TELEVISION",
      "0RADIO|0VIDEOCASSETTE|0FILM PROJECTOR|0PORTABLE STEREO|0PRAYER BEADS",
      "0TWISTED RIGHTWARDS ARROWS|0CLOCKWISE RIGHTWARDS AND LEFTWARDS OPEN CIRCLE ARROWS",
      "7WITH CIRCLED ONE OVERLAY|1DOWNWARDS AND UPWARDS OPEN CIRCLE ARROWS",
      "0ANTICLOCKWISE DOWNWARDS AND UPWARDS OPEN CIRCLE ARROWS|0LOW BRIGHTNESS SYMBOL",
      "0HIGH BRIGHTNESS SYMBOL|0SPEAKER WITH CANCELLATION STROKE|0SPEAKER|1WITH ONE SOUND WAVE",
      "2THREE SOUND WAVES|0BATTERY|0ELECTRIC PLUG|0LEFT-POINTING MAGNIFYING GLASS",
      "0RIGHT-POINTING MAGNIFYING GLASS|0LOCK WITH INK PEN|0CLOSED LOCK WITH KEY|0KEY|0LOCK",
      "0OPEN LOCK|0BELL|1WITH CANCELLATION STROKE|0BOOKMARK|0LINK SYMBOL|0RADIO BUTTON",
      "0BACK WITH LEFTWARDS ARROW ABOVE|0END WITH LEFTWARDS ARROW ABOVE",
      "0ON WITH EXCLAMATION MARK WITH LEFT RIGHT ARROW ABOVE|0SOON WITH RIGHTWARDS ARROW ABOVE",
      "0TOP WITH UPWARDS ARROW ABOVE|0NO ONE UNDER EIGHTEEN SYMBOL|0KEYCAP TEN",
      "0INPUT SYMBOL FOR LATIN CAPITAL LETTERS|4SMALL LETTERS|3NUMBERS|3SYMBOLS|3LATIN LETTERS",
      "0FIRE|0ELECTRIC TORCH|0WRENCH|0HAMMER|0NUT AND BOLT|0HOCHO|0PISTOL|0MICROSCOPE",
      "0TELESCOPE|0CRYSTAL BALL|0SIX POINTED STAR WITH MIDDLE DOT|0JAPANESE SYMBOL FOR BEGINNER",
      "0TRIDENT EMBLEM|0BLACK SQUARE BUTTON|0WHITE SQUARE BUTTON|0LARGE RED CIRCLE|1BLUE CIRCLE",
      "1ORANGE DIAMOND|1BLUE DIAMOND|0SMALL ORANGE DIAMOND|1BLUE DIAMOND",
      "0UP-POINTING RED TRIANGLE|0DOWN-POINTING RED TRIANGLE|0UP-POINTING SMALL RED TRIANGLE",
      "0DOWN-POINTING SMALL RED TRIANGLE|0LOWER RIGHT SHADOWED WHITE CIRCLE",
      "0UPPER RIGHT SHADOWED WHITE CIRCLE|0CIRCLED CROSS POMMEE",
      "0CROSS POMMEE WITH HALF-CIRCLE BELOW|1POMMEE|0NOTCHED LEFT SEMICIRCLE WITH THREE DOTS",
      "1RIGHT SEMICIRCLE WITH THREE DOTS|0SYMBOL FOR MARKS CHAPTER|0WHITE LATIN CROSS",
      "0HEAVY LATIN CROSS|0CELTIC CROSS|0OM SYMBOL|0DOVE OF PEACE|0KAABA|0MOSQUE|0SYNAGOGUE",
      "0MENORAH WITH NINE BRANCHES|0BOWL OF HYGIEIA|0CLOCK FACE ONE OCLOCK|2TWO OCLOCK",
      "2THREE OCLOCK|2FOUR OCLOCK|2FIVE OCLOCK|2SIX OCLOCK|2SEVEN OCLOCK|2EIGHT OCLOCK",
      "2NINE OCLOCK|2TEN OCLOCK|2ELEVEN OCLOCK|2TWELVE OCLOCK|2ONE-THIRTY|2TWO-THIRTY",
      "2THREE-THIRTY|2FOUR-THIRTY|2FIVE-THIRTY|2SIX-THIRTY|2SEVEN-THIRTY|2EIGHT-THIRTY",
      "2NINE-THIRTY|2TEN-THIRTY|2ELEVEN-THIRTY|2TWELVE-THIRTY|0RIGHT SPEAKER",
      "2WITH ONE SOUND WAVE|3THREE SOUND WAVES|0BULLHORN|1WITH SOUND WAVES|0RINGING BELL|0BOOK",
      "0CANDLE|0MANTELPIECE CLOCK|0BLACK SKULL AND CROSSBONES|0NO PIRACY|0HOLE",
      "0MAN IN BUSINESS SUIT LEVITATING|0SLEUTH OR SPY|0DARK SUNGLASSES|0SPIDER|1WEB|0JOYSTICK",
      "0MAN DANCING|0LEFT HAND TELEPHONE RECEIVER|0TELEPHONE RECEIVER WITH PAGE",
      "0RIGHT HAND TELEPHONE RECEIVER|0WHITE TOUCHTONE TELEPHONE|0BLACK TOUCHTONE TELEPHONE",
      "0TELEPHONE ON TOP OF MODEM|0CLAMSHELL MOBILE PHONE|0BACK OF ENVELOPE|0STAMPED ENVELOPE",
      "0ENVELOPE WITH LIGHTNING|0FLYING ENVELOPE|0PEN OVER STAMPED ENVELOPE|0LINKED PAPERCLIPS",
      "0BLACK PUSHPIN|0LOWER LEFT PENCIL|2BALLPOINT PEN|2FOUNTAIN PEN|2PAINTBRUSH|2CRAYON",
      "0LEFT WRITING HAND|0TURNED OK HAND SIGN|0RAISED HAND WITH FINGERS SPLAYED",
      "0REVERSED RAISED HAND WITH FINGERS SPLAYED|1THUMBS UP SIGN|2DOWN SIGN|1VICTORY HAND",
      "1HAND WITH MIDDLE FINGER EXTENDED|0RAISED HAND WITH PART BETWEEN MIDDLE AND RING FINGERS",
      "0WHITE DOWN POINTING LEFT HAND INDEX|0SIDEWAYS WHITE LEFT POINTING INDEX",
      "2RIGHT POINTING INDEX|1BLACK LEFT POINTING INDEX|2RIGHT POINTING INDEX",
      "0BLACK LEFT POINTING BACKHAND INDEX|1RIGHT POINTING BACKHAND INDEX",
      "0SIDEWAYS WHITE UP POINTING INDEX|2DOWN POINTING INDEX|1BLACK UP POINTING INDEX",
      "2DOWN POINTING INDEX|0BLACK UP POINTING BACKHAND INDEX|1DOWN POINTING BACKHAND INDEX",
      "1HEART|0DESKTOP COMPUTER|0KEYBOARD AND MOUSE|0THREE NETWORKED COMPUTERS|0PRINTER",
      "0POCKET CALCULATOR|0BLACK HARD SHELL FLOPPY DISK|0WHITE HARD SHELL FLOPPY DISK",
      "0SOFT SHELL FLOPPY DISK|0TAPE CARTRIDGE|0WIRED KEYBOARD|0ONE BUTTON MOUSE",
      "0TWO BUTTON MOUSE|0THREE BUTTON MOUSE|0TRACKBALL|0OLD PERSONAL COMPUTER|0HARD DISK",
      "0SCREEN|0PRINTER ICON|0FAX ICON|0OPTICAL DISC ICON|0DOCUMENT WITH TEXT|3AND PICTURE",
      "2PICTURE|0FRAME WITH PICTURE|2TILES|2AN X|0BLACK FOLDER|0FOLDER|0OPEN FOLDER",
      "0CARD INDEX DIVIDERS|1FILE BOX|0FILE CABINET|0EMPTY NOTE|2PAGE|2PAD|0NOTE|1PAGE|1PAD",
      "0EMPTY DOCUMENT|1PAGE|1PAGES|0DOCUMENT|0PAGE|0PAGES|0WASTEBASKET|0SPIRAL NOTE PAD",
      "1CALENDAR PAD|0DESKTOP WINDOW|0MINIMIZE|0MAXIMIZE|0OVERLAP",
      "0CLOCKWISE RIGHT AND LEFT SEMICIRCLE ARROWS|0CANCELLATION X|0INCREASE FONT SIZE SYMBOL",
      "0DECREASE FONT SIZE SYMBOL|0COMPRESSION|0OLD KEY|0ROLLED-UP NEWSPAPER",
      "0PAGE WITH CIRCLED TEXT|0STOCK CHART|0DAGGER KNIFE|0LIPS|0SPEAKING HEAD IN SILHOUETTE",
      "0THREE RAYS ABOVE|2BELOW|2LEFT|2RIGHT|0LEFT SPEECH BUBBLE|0RIGHT SPEECH BUBBLE",
      "0TWO SPEECH BUBBLES|0THREE SPEECH BUBBLES|0LEFT THOUGHT BUBBLE|0RIGHT THOUGHT BUBBLE",
      "0LEFT ANGER BUBBLE|0RIGHT ANGER BUBBLE|0MOOD BUBBLE|0LIGHTNING MOOD BUBBLE|1MOOD",
      "0BALLOT BOX WITH BALLOT|1SCRIPT X|1BOX WITH SCRIPT X|1BOLD SCRIPT X",
      "1BOX WITH BOLD SCRIPT X|0LIGHT CHECK MARK|0BALLOT BOX WITH BOLD CHECK|0WORLD MAP",
      "0MOUNT FUJI|0TOKYO TOWER|0STATUE OF LIBERTY|0SILHOUETTE OF JAPAN|0MOYAI"]⟩
  ]

/-- Faces, transport, and alchemy. -/
def faceNames : List NameRun :=
  [
    ⟨0x1F600, [
      "0GRINNING FACE|2WITH SMILING EYES|0FACE WITH TEARS OF JOY|0SMILING FACE WITH OPEN MOUTH",
      "5AND SMILING EYES|6COLD SWEAT|6TIGHTLY-CLOSED EYES|3HALO|3HORNS|0WINKING FACE",
      "0SMILING FACE WITH SMILING EYES|0FACE SAVOURING DELICIOUS FOOD|0RELIEVED FACE",
      "0SMILING FACE WITH HEART-SHAPED EYES|3SUNGLASSES|0SMIRKING FACE|0NEUTRAL FACE",
      "0EXPRESSIONLESS FACE|0UNAMUSED FACE|0FACE WITH COLD SWEAT|0PENSIVE FACE|0CONFUSED FACE",
      "0CONFOUNDED FACE|0KISSING FACE|0FACE THROWING A KISS|0KISSING FACE WITH SMILING EYES",
      "3CLOSED EYES|0FACE WITH STUCK-OUT TONGUE|4AND WINKING EYE|5TIGHTLY-CLOSED EYES",
      "0DISAPPOINTED FACE|0WORRIED FACE|0ANGRY FACE|0POUTING FACE|0CRYING FACE",
      "0PERSEVERING FACE|0FACE WITH LOOK OF TRIUMPH|0DISAPPOINTED BUT RELIEVED FACE",
      "0FROWNING FACE WITH OPEN MOUTH|0ANGUISHED FACE|0FEARFUL FACE|0WEARY FACE|0SLEEPY FACE",
      "0TIRED FACE|0GRIMACING FACE|0LOUDLY CRYING FACE|0FACE WITH OPEN MOUTH|0HUSHED FACE",
      "0FACE WITH OPEN MOUTH AND COLD SWEAT|1SCREAMING IN FEAR|0ASTONISHED FACE|0FLUSHED FACE",
      "0SLEEPING FACE|0DIZZY FACE|0FACE WITHOUT MOUTH|1WITH MEDICAL MASK",
      "0GRINNING CAT FACE WITH SMILING EYES|0CAT FACE WITH TEARS OF JOY",
      "0SMILING CAT FACE WITH OPEN MOUTH|4HEART-SHAPED EYES|0CAT FACE WITH WRY SMILE",
      "0KISSING CAT FACE WITH CLOSED EYES|0POUTING CAT FACE|0CRYING CAT FACE|0WEARY CAT FACE",
      "0SLIGHTLY FROWNING FACE|1SMILING FACE|0UPSIDE-DOWN FACE|0FACE WITH ROLLING EYES",
      "2NO GOOD GESTURE|2OK GESTURE|0PERSON BOWING DEEPLY|0SEE-NO-EVIL MONKEY",
      "0HEAR-NO-EVIL MONKEY|0SPEAK-NO-EVIL MONKEY|0HAPPY PERSON RAISING ONE HAND",
      "0PERSON RAISING BOTH HANDS IN CELEBRATION|1FROWNING|1WITH POUTING FACE|2FOLDED HANDS",
      "0NORTH WEST POINTING LEAF|0SOUTH WEST POINTING LEAF|0NORTH EAST POINTING LEAF",
      "0SOUTH EAST POINTING LEAF|0TURNED NORTH WEST POINTING LEAF|1SOUTH WEST POINTING LEAF",
      "1NORTH EAST POINTING LEAF|1SOUTH EAST POINTING LEAF|0NORTH WEST POINTING VINE LEAF",
      "0SOUTH WEST POINTING VINE LEAF|0NORTH EAST POINTING VINE LEAF",
      "0SOUTH EAST POINTING VINE LEAF|0HEAVY NORTH WEST POINTING VINE LEAF",
      "1SOUTH WEST POINTING VINE LEAF|1NORTH EAST POINTING VINE LEAF",
      "1SOUTH EAST POINTING VINE LEAF|0NORTH WEST POINTING BUD|0SOUTH WEST POINTING BUD",
      "0NORTH EAST POINTING BUD|0SOUTH EAST POINTING BUD|0HEAVY NORTH WEST POINTING BUD",
      "1SOUTH WEST POINTING BUD|1NORTH EAST POINTING BUD|1SOUTH EAST POINTING BUD",
      "0HOLLOW QUILT SQUARE ORNAMENT|4IN BLACK SQUARE|0SOLID QUILT SQUARE ORNAMENT",
      "4IN BLACK SQUARE|0LEFTWARDS ROCKET|0UPWARDS ROCKET|0RIGHTWARDS ROCKET|0DOWNWARDS ROCKET",
      "0SCRIPT LIGATURE ET ORNAMENT|0HEAVY SCRIPT LIGATURE ET ORNAMENT",
      "0LIGATURE OPEN ET ORNAMENT|0HEAVY LIGATURE OPEN ET ORNAMENT|1AMPERSAND ORNAMENT",
      "0SWASH AMPERSAND ORNAMENT|0SANS-SERIF HEAVY DOUBLE TURNED COMMA QUOTATION MARK ORNAMENT",
      "3COMMA QUOTATION MARK ORNAMENT|2LOW DOUBLE COMMA QUOTATION MARK ORNAMENT",
      "0HEAVY INTERROBANG ORNAMENT|0SANS-SERIF INTERROBANG ORNAMENT",
      "0HEAVY SANS-SERIF INTERROBANG ORNAMENT|0VERY HEAVY SOLIDUS|2REVERSE SOLIDUS",
      "0CHECKER BOARD|0REVERSE CHECKER BOARD|0ROCKET|0HELICOPTER|0STEAM LOCOMOTIVE|0RAILWAY CAR",
      "0HIGH-SPEED TRAIN|2WITH BULLET NOSE|0TRAIN|0METRO|0LIGHT RAIL|0STATION|0TRAM|1CAR|0BUS",
      "0ONCOMING BUS|0TROLLEYBUS|0BUS STOP|0MINIBUS|0AMBULANCE|0FIRE ENGINE|0POLICE CAR",
      "0ONCOMING POLICE CAR|0TAXI|0ONCOMING TAXI|0AUTOMOBILE|0ONCOMING AUTOMOBILE",
      "0RECREATIONAL VEHICLE|0DELIVERY TRUCK|0ARTICULATED LORRY|0TRACTOR|0MONORAIL",
      "0MOUNTAIN RAILWAY|0SUSPENSION RAILWAY|0MOUNTAIN CABLEWAY|0AERIAL TRAMWAY|0SHIP|0ROWBOAT",
      "0SPEEDBOAT|0HORIZONTAL TRAFFIC LIGHT|0VERTICAL TRAFFIC LIGHT|0CONSTRUCTION SIGN",
      "0POLICE CARS REVOLVING LIGHT|0TRIANGULAR FLAG ON POST|0DOOR|0NO ENTRY SIGN",
      "0SMOKING SYMBOL|0NO SMOKING SYMBOL|0PUT LITTER IN ITS PLACE SYMBOL|0DO NOT LITTER SYMBOL",
      "0POTABLE WATER SYMBOL|0NON-POTABLE WATER SYMBOL|0BICYCLE|0NO BICYCLES|0BICYCLIST",
      "0MOUNTAIN BICYCLIST|0PEDESTRIAN|0NO PEDESTRIANS|0CHILDREN CROSSING|0MENS SYMBOL",
      "0WOMENS SYMBOL|0RESTROOM|0BABY SYMBOL|0TOILET|0WATER CLOSET|0SHOWER|0BATH|0BATHTUB",
      "0PASSPORT CONTROL|0CUSTOMS|0BAGGAGE CLAIM|0LEFT LUGGAGE|0TRIANGLE WITH ROUNDED CORNERS",
      "0PROHIBITED SIGN|0CIRCLED INFORMATION SOURCE|0BOYS SYMBOL|0GIRLS SYMBOL|0COUCH AND LAMP",
      "0SLEEPING ACCOMMODATION|0SHOPPING BAGS|0BELLHOP BELL|0BED|0PLACE OF WORSHIP",
      "0OCTAGONAL SIGN|0SHOPPING TROLLEY|0STUPA|0PAGODA|0HINDU TEMPLE|0HUT|0ELEVATOR"]⟩,
    ⟨0x1F6DD, [
      "0PLAYGROUND SLIDE|0WHEEL|0RING BUOY|0HAMMER AND WRENCH|0SHIELD|0OIL DRUM|0MOTORWAY",
      "0RAILWAY TRACK|0MOTOR BOAT|0UP-POINTING MILITARY AIRPLANE|1AIRPLANE|1SMALL AIRPLANE",
      "0SMALL AIRPLANE|0NORTHEAST-POINTING AIRPLANE|0AIRPLANE DEPARTURE|1ARRIVING||||0SATELLITE",
      "0ONCOMING FIRE ENGINE|0DIESEL LOCOMOTIVE|0PASSENGER SHIP|0SCOOTER|0MOTOR SCOOTER|0CANOE",
      "0SLED|0FLYING SAUCER|0SKATEBOARD|0AUTO RICKSHAW|0PICKUP TRUCK|0ROLLER SKATE|||",
      "0ALCHEMICAL SYMBOL FOR QUINTESSENCE|3AIR|3FIRE|3EARTH|3WATER|3AQUAFORTIS|3AQUA REGIA",
      "4REGIA-2|4VITAE|4VITAE-2|3VINEGAR|3VINEGAR-2|3VINEGAR-3|3SULFUR|3PHILOSOPHERS SULFUR",
      "3BLACK SULFUR|3MERCURY SUBLIMATE|4SUBLIMATE-2|4SUBLIMATE-3|3CINNABAR|3SALT|3NITRE",
      "3VITRIOL|3VITRIOL-2|3ROCK SALT|4SALT-2|3GOLD|3SILVER|3IRON ORE|4ORE-2|3CROCUS OF IRON",
      "3REGULUS OF IRON|3COPPER ORE|3IRON-COPPER ORE|3SUBLIMATE OF COPPER|3CROCUS OF COPPER",
      "5COPPER-2|3COPPER ANTIMONIATE|3SALT OF COPPER ANTIMONIATE|3SUBLIMATE OF SALT OF COPPER",
      "3VERDIGRIS|3TIN ORE|3LEAD ORE|3ANTIMONY ORE|3SUBLIMATE OF ANTIMONY|3SALT OF ANTIMONY",
      "3SUBLIMATE OF SALT OF ANTIMONY|3VINEGAR OF ANTIMONY|3REGULUS OF ANTIMONY|5ANTIMONY-2",
      "3REGULUS|3REGULUS-2|3REGULUS-3|3REGULUS-4|3ALKALI|3ALKALI-2|3MARCASITE|3SAL-AMMONIAC",
      "3ARSENIC|3REALGAR|3REALGAR-2|3AURIPIGMENT|3BISMUTH ORE|3TARTAR|3TARTAR-2|3QUICK LIME",
      "3BORAX|3BORAX-2|3BORAX-3|3ALUM|3OIL|3SPIRIT|3TINCTURE|3GUM|3WAX|3POWDER|3CALX|3TUTTY",
      "3CAPUT MORTUUM|3SCEPTER OF JOVE|3CADUCEUS|3TRIDENT|3STARRED TRIDENT|3LODESTONE|3SOAP",
      "3URINE|3HORSE DUNG|3ASHES|3POT ASHES|3BRICK|3POWDERED BRICK|3AMALGAM",
      "3STRATUM SUPER STRATUM|5STRATUM-2|3SUBLIMATION|3PRECIPITATE|3DISTILL|3DISSOLVE",
      "3DISSOLVE-2|3PURIFY|3PUTREFACTION|3CRUCIBLE|3CRUCIBLE-2|3CRUCIBLE-3|3CRUCIBLE-4",
      "3CRUCIBLE-5|3ALEMBIC|3BATH OF MARY|5VAPOURS|3RETORT|3HOUR|3NIGHT|3DAY-NIGHT|3MONTH",
      "3HALF DRAM|4OUNCE"]⟩,
    ⟨0x1F780, [
      "0BLACK LEFT-POINTING ISOSCELES RIGHT TRIANGLE|1UP-POINTING ISOSCELES RIGHT TRIANGLE",
      "1RIGHT-POINTING ISOSCELES RIGHT TRIANGLE|1DOWN-POINTING ISOSCELES RIGHT TRIANGLE",
      "1SLIGHTLY SMALL CIRCLE|0MEDIUM BOLD WHITE CIRCLE|0BOLD WHITE CIRCLE|0HEAVY WHITE CIRCLE",
      "0VERY HEAVY WHITE CIRCLE|0EXTREMELY HEAVY WHITE CIRCLE",
      "0WHITE CIRCLE CONTAINING BLACK SMALL CIRCLE|0ROUND TARGET|0BLACK TINY SQUARE",
      "1SLIGHTLY SMALL SQUARE|0LIGHT WHITE SQUARE|0MEDIUM WHITE SQUARE|0BOLD WHITE SQUARE",
      "0HEAVY WHITE SQUARE|0VERY HEAVY WHITE SQUARE|0EXTREMELY HEAVY WHITE SQUARE",
      "0WHITE SQUARE CONTAINING BLACK VERY SMALL SQUARE|4MEDIUM SQUARE|0SQUARE TARGET",
      "0BLACK TINY DIAMOND|1VERY SMALL DIAMOND|1MEDIUM SMALL DIAMOND",
      "0WHITE DIAMOND CONTAINING BLACK VERY SMALL DIAMOND|4MEDIUM DIAMOND|0DIAMOND TARGET",
      "0BLACK TINY LOZENGE|1VERY SMALL LOZENGE|1MEDIUM SMALL LOZENGE",
      "0WHITE LOZENGE CONTAINING BLACK SMALL LOZENGE|0THIN GREEK CROSS|0LIGHT GREEK CROSS",
      "0MEDIUM GREEK CROSS|0BOLD GREEK CROSS|0VERY BOLD GREEK CROSS|1HEAVY GREEK CROSS",
      "0EXTREMELY HEAVY GREEK CROSS|0THIN SALTIRE|0LIGHT SALTIRE|0MEDIUM SALTIRE|0BOLD SALTIRE",
      "0HEAVY SALTIRE|0VERY HEAVY SALTIRE|0EXTREMELY HEAVY SALTIRE|0LIGHT FIVE SPOKED ASTERISK",
      "0MEDIUM FIVE SPOKED ASTERISK|0BOLD FIVE SPOKED ASTERISK|0HEAVY FIVE SPOKED ASTERISK",
      "0VERY HEAVY FIVE SPOKED ASTERISK|0EXTREMELY HEAVY FIVE SPOKED ASTERISK",
      "0LIGHT SIX SPOKED ASTERISK|0MEDIUM SIX SPOKED ASTERISK|0BOLD SIX SPOKED ASTERISK",
      "0HEAVY SIX SPOKED ASTERISK|0VERY HEAVY SIX SPOKED ASTERISK",
      "0EXTREMELY HEAVY SIX SPOKED ASTERISK|0LIGHT EIGHT SPOKED ASTERISK",
      "0MEDIUM EIGHT SPOKED ASTERISK|0BOLD EIGHT SPOKED ASTERISK|0HEAVY EIGHT SPOKED ASTERISK",
      "0VERY HEAVY EIGHT SPOKED ASTERISK|0LIGHT THREE POINTED BLACK STAR",
      "0MEDIUM THREE POINTED BLACK STAR|0THREE POINTED BLACK STAR",
      "0MEDIUM THREE POINTED PINWHEEL STAR|0LIGHT FOUR POINTED BLACK STAR",
      "0MEDIUM FOUR POINTED BLACK STAR|0FOUR POINTED BLACK STAR",
      "0MEDIUM FOUR POINTED PINWHEEL STAR|0REVERSE LIGHT FOUR POINTED PINWHEEL STAR",
      "0LIGHT FIVE POINTED BLACK STAR|0HEAVY FIVE POINTED BLACK STAR",
      "0MEDIUM SIX POINTED BLACK STAR|0HEAVY SIX POINTED BLACK STAR|0SIX POINTED PINWHEEL STAR",
      "0MEDIUM EIGHT POINTED BLACK STAR|0HEAVY EIGHT POINTED BLACK STAR",
      "0VERY HEAVY EIGHT POINTED BLACK STAR|0HEAVY EIGHT POINTED PINWHEEL STAR",
      "0LIGHT TWELVE POINTED BLACK STAR|0HEAVY TWELVE POINTED BLACK STAR|3PINWHEEL STAR",
      "0CIRCLED TRIANGLE|0NEGATIVE CIRCLED TRIANGLE|0CIRCLED SQUARE|0NEGATIVE CIRCLED SQUARE"]⟩,
    ⟨0x1F7E0, [
      "0LARGE ORANGE CIRCLE|1YELLOW CIRCLE|1GREEN CIRCLE|1PURPLE CIRCLE|1BROWN CIRCLE",
      "1RED SQUARE|1BLUE SQUARE|1ORANGE SQUARE|1YELLOW SQUARE|1GREEN SQUARE|1PURPLE SQUARE",
      "1BROWN SQUARE"]⟩,
    ⟨0x1F7F0, ["0HEAVY EQUALS SIGN"]⟩,
    ⟨0x1F800, [
      "0LEFTWARDS ARROW WITH SMALL TRIANGLE ARROWHEAD",
      "0UPWARDS ARROW WITH SMALL TRIANGLE ARROWHEAD",
      "0RIGHTWARDS ARROW WITH SMALL TRIANGLE ARROWHEAD",
      "0DOWNWARDS ARROW WITH SMALL TRIANGLE ARROWHEAD",
      "0LEFTWARDS ARROW WITH MEDIUM TRIANGLE ARROWHEAD",
      "0UPWARDS ARROW WITH MEDIUM TRIANGLE ARROWHEAD",
      "0RIGHTWARDS ARROW WITH MEDIUM TRIANGLE ARROWHEAD",
      "0DOWNWARDS ARROW WITH MEDIUM TRIANGLE ARROWHEAD",
      "0LEFTWARDS ARROW WITH LARGE TRIANGLE ARROWHEAD",
      "0UPWARDS ARROW WITH LARGE TRIANGLE ARROWHEAD",
      "0RIGHTWARDS ARROW WITH LARGE TRIANGLE ARROWHEAD",
      "0DOWNWARDS ARROW WITH LARGE TRIANGLE ARROWHEAD"]⟩,
    ⟨0x1F810, [
      "0LEFTWARDS ARROW WITH SMALL EQUILATERAL ARROWHEAD",
      "0UPWARDS ARROW WITH SMALL EQUILATERAL ARROWHEAD",
      "0RIGHTWARDS ARROW WITH SMALL EQUILATERAL ARROWHEAD",
      "0DOWNWARDS ARROW WITH SMALL EQUILATERAL ARROWHEAD",
      "0LEFTWARDS ARROW WITH EQUILATERAL ARROWHEAD|0UPWARDS ARROW WITH EQUILATERAL ARROWHEAD",
      "0RIGHTWARDS ARROW WITH EQUILATERAL ARROWHEAD|0DOWNWARDS ARROW WITH EQUILATERAL ARROWHEAD",
      "0HEAVY LEFTWARDS ARROW WITH EQUILATERAL ARROWHEAD",
      "1UPWARDS ARROW WITH EQUILATERAL ARROWHEAD|1RIGHTWARDS ARROW WITH EQUILATERAL ARROWHEAD",
      "1DOWNWARDS ARROW WITH EQUILATERAL ARROWHEAD",
      "1LEFTWARDS ARROW WITH LARGE EQUILATERAL ARROWHEAD",
      "1UPWARDS ARROW WITH LARGE EQUILATERAL ARROWHEAD",
      "1RIGHTWARDS ARROW WITH LARGE EQUILATERAL ARROWHEAD",
      "1DOWNWARDS ARROW WITH LARGE EQUILATERAL ARROWHEAD",
      "0LEFTWARDS TRIANGLE-HEADED ARROW WITH NARROW SHAFT",
      "0UPWARDS TRIANGLE-HEADED ARROW WITH NARROW SHAFT",
      "0RIGHTWARDS TRIANGLE-HEADED ARROW WITH NARROW SHAFT",
      "0DOWNWARDS TRIANGLE-HEADED ARROW WITH NARROW SHAFT",
      "0LEFTWARDS TRIANGLE-HEADED ARROW WITH MEDIUM SHAFT",
      "0UPWARDS TRIANGLE-HEADED ARROW WITH MEDIUM SHAFT",
      "0RIGHTWARDS TRIANGLE-HEADED ARROW WITH MEDIUM SHAFT",
      "0DOWNWARDS TRIANGLE-HEADED ARROW WITH MEDIUM SHAFT",
      "0LEFTWARDS TRIANGLE-HEADED ARROW WITH BOLD SHAFT",
      "0UPWARDS TRIANGLE-HEADED ARROW WITH BOLD SHAFT",
      "0RIGHTWARDS TRIANGLE-HEADED ARROW WITH BOLD SHAFT",
      "0DOWNWARDS TRIANGLE-HEADED ARROW WITH BOLD SHAFT",
      "0LEFTWARDS TRIANGLE-HEADED ARROW WITH HEAVY SHAFT",
      "0UPWARDS TRIANGLE-HEADED ARROW WITH HEAVY SHAFT",
      "0RIGHTWARDS TRIANGLE-HEADED ARROW WITH HEAVY SHAFT",
      "0DOWNWARDS TRIANGLE-HEADED ARROW WITH HEAVY SHAFT",
      "0LEFTWARDS TRIANGLE-HEADED ARROW WITH VERY HEAVY SHAFT",
      "0UPWARDS TRIANGLE-HEADED ARROW WITH VERY HEAVY SHAFT",
      "0RIGHTWARDS TRIANGLE-HEADED ARROW WITH VERY HEAVY SHAFT",
      "0DOWNWARDS TRIANGLE-HEADED ARROW WITH VERY HEAVY SHAFT|0LEFTWARDS FINGER-POST ARROW",
      "0UPWARDS FINGER-POST ARROW|0RIGHTWARDS FINGER-POST ARROW|0DOWNWARDS FINGER-POST ARROW",
      "0LEFTWARDS SQUARED ARROW|0UPWARDS SQUARED ARROW|0RIGHTWARDS SQUARED ARROW",
      "0DOWNWARDS SQUARED ARROW|0LEFTWARDS COMPRESSED ARROW|0UPWARDS COMPRESSED ARROW",
      "0RIGHTWARDS COMPRESSED ARROW|0DOWNWARDS COMPRESSED ARROW",
      "0LEFTWARDS HEAVY COMPRESSED ARROW|0UPWARDS HEAVY COMPRESSED ARROW",
      "0RIGHTWARDS HEAVY COMPRESSED ARROW|0DOWNWARDS HEAVY COMPRESSED ARROW",
      "0LEFTWARDS HEAVY ARROW|0UPWARDS HEAVY ARROW|0RIGHTWARDS HEAVY ARROW",
      "0DOWNWARDS HEAVY ARROW"]⟩,
    ⟨0x1F850, [
      "0LEFTWARDS SANS-SERIF ARROW|0UPWARDS SANS-SERIF ARROW|0RIGHTWARDS SANS-SERIF ARROW",
      "0DOWNWARDS SANS-SERIF ARROW|0NORTH WEST SANS-SERIF ARROW|1EAST SANS-SERIF ARROW",
      "0SOUTH EAST SANS-SERIF ARROW|1WEST SANS-SERIF ARROW|0LEFT RIGHT SANS-SERIF ARROW",
      "0UP DOWN SANS-SERIF ARROW"]⟩,
    ⟨0x1F860, [
      "0WIDE-HEADED LEFTWARDS LIGHT BARB ARROW|1UPWARDS LIGHT BARB ARROW",
      "1RIGHTWARDS LIGHT BARB ARROW|1DOWNWARDS LIGHT BARB ARROW|1NORTH WEST LIGHT BARB ARROW",
      "2EAST LIGHT BARB ARROW|1SOUTH EAST LIGHT BARB ARROW|2WEST LIGHT BARB ARROW",
      "1LEFTWARDS BARB ARROW|1UPWARDS BARB ARROW|1RIGHTWARDS BARB ARROW|1DOWNWARDS BARB ARROW",
      "1NORTH WEST BARB ARROW|2EAST BARB ARROW|1SOUTH EAST BARB ARROW|2WEST BARB ARROW",
      "1LEFTWARDS MEDIUM BARB ARROW|1UPWARDS MEDIUM BARB ARROW|1RIGHTWARDS MEDIUM BARB ARROW",
      "1DOWNWARDS MEDIUM BARB ARROW|1NORTH WEST MEDIUM BARB ARROW|2EAST MEDIUM BARB ARROW",
      "1SOUTH EAST MEDIUM BARB ARROW|2WEST MEDIUM BARB ARROW|1LEFTWARDS HEAVY BARB ARROW",
      "1UPWARDS HEAVY BARB ARROW|1RIGHTWARDS HEAVY BARB ARROW|1DOWNWARDS HEAVY BARB ARROW",
      "1NORTH WEST HEAVY BARB ARROW|2EAST HEAVY BARB ARROW|1SOUTH EAST HEAVY BARB ARROW",
      "2WEST HEAVY BARB ARROW|1LEFTWARDS VERY HEAVY BARB ARROW|1UPWARDS VERY HEAVY BARB ARROW",
      "1RIGHTWARDS VERY HEAVY BARB ARROW|1DOWNWARDS VERY HEAVY BARB ARROW",
      "1NORTH WEST VERY HEAVY BARB ARROW|2EAST VERY HEAVY BARB ARROW",
      "1SOUTH EAST VERY HEAVY BARB ARROW|2WEST VERY HEAVY BARB ARROW"]⟩,
    ⟨0x1F890, [
      "0LEFTWARDS TRIANGLE ARROWHEAD|0UPWARDS TRIANGLE ARROWHEAD|0RIGHTWARDS TRIANGLE ARROWHEAD",
      "0DOWNWARDS TRIANGLE ARROWHEAD|0LEFTWARDS WHITE ARROW WITHIN TRIANGLE ARROWHEAD",
      "0UPWARDS WHITE ARROW WITHIN TRIANGLE ARROWHEAD",
      "0RIGHTWARDS WHITE ARROW WITHIN TRIANGLE ARROWHEAD",
      "0DOWNWARDS WHITE ARROW WITHIN TRIANGLE ARROWHEAD|0LEFTWARDS ARROW WITH NOTCHED TAIL",
      "0UPWARDS ARROW WITH NOTCHED TAIL|0RIGHTWARDS ARROW WITH NOTCHED TAIL",
      "0DOWNWARDS ARROW WITH NOTCHED TAIL|0HEAVY ARROW SHAFT WIDTH ONE|4TWO THIRDS|4ONE HALF",
      "5THIRD|0LEFTWARDS BOTTOM-SHADED WHITE ARROW|0RIGHTWARDS BOTTOM SHADED WHITE ARROW",
      "0LEFTWARDS TOP SHADED WHITE ARROW|0RIGHTWARDS TOP SHADED WHITE ARROW",
      "0LEFTWARDS LEFT-SHADED WHITE ARROW|0RIGHTWARDS RIGHT-SHADED WHITE ARROW",
      "0LEFTWARDS RIGHT-SHADED WHITE ARROW|0RIGHTWARDS LEFT-SHADED WHITE ARROW",
      "0LEFTWARDS BACK-TILTED SHADOWED WHITE ARROW|0RIGHTWARDS BACK-TILTED SHADOWED WHITE ARROW",
      "0LEFTWARDS FRONT-TILTED SHADOWED WHITE ARROW",
      "0RIGHTWARDS FRONT-TILTED SHADOWED WHITE ARROW|0WHITE ARROW SHAFT WIDTH ONE|4TWO THIRDS||",
      "0ARROW POINTING UPWARDS THEN NORTH WEST|2RIGHTWARDS THEN CURVING SOUTH WEST"]⟩
  ]

/-- Further pictographs and signs of older computers. -/
def laterPictographNames : List NameRun :=
  [
    ⟨0x1F900, [
      "0CIRCLED CROSS FORMEE WITH FOUR DOTS|4TWO DOTS|2FORMEE|0LEFT HALF CIRCLE WITH FOUR DOTS",
      "4THREE DOTS|4TWO DOTS|4DOT|2CIRCLE|0DOWNWARD FACING HOOK|2NOTCHED HOOK|2HOOK WITH DOT",
      "2NOTCHED HOOK WITH DOT|0PINCHED FINGERS|0WHITE HEART|0BROWN HEART|0PINCHING HAND",
      "0ZIPPER-MOUTH FACE|0MONEY-MOUTH FACE|0FACE WITH THERMOMETER|0NERD FACE|0THINKING FACE",
      "0FACE WITH HEAD-BANDAGE|0ROBOT FACE|0HUGGING FACE|0SIGN OF THE HORNS|0CALL ME HAND",
      "0RAISED BACK OF HAND|0LEFT-FACING FIST|0RIGHT-FACING FIST|0HANDSHAKE",
      "0HAND WITH INDEX AND MIDDLE FINGERS CROSSED|0I LOVE YOU HAND SIGN|0FACE WITH COWBOY HAT",
      "0CLOWN FACE|0NAUSEATED FACE|0ROLLING ON THE FLOOR LAUGHING|0DROOLING FACE|0LYING FACE",
      "0FACE PALM|0SNEEZING FACE|0FACE WITH ONE EYEBROW RAISED|0GRINNING FACE WITH STAR EYES",
      "3ONE LARGE AND ONE SMALL EYE|0FACE WITH FINGER COVERING CLOSED LIPS",
      "0SERIOUS FACE WITH SYMBOLS COVERING MOUTH",
      "0SMILING FACE WITH SMILING EYES AND HAND COVERING MOUTH|0FACE WITH OPEN MOUTH VOMITING",
      "0SHOCKED FACE WITH EXPLODING HEAD|0PREGNANT WOMAN|0BREAST-FEEDING|0PALMS UP TOGETHER",
      "0SELFIE|0PRINCE|0MAN IN TUXEDO|0MOTHER CHRISTMAS|0SHRUG|0PERSON DOING CARTWHEEL",
      "0JUGGLING|0FENCER|0MODERN PENTATHLON|0WRESTLERS|0WATER POLO|0HANDBALL|0DIVING MASK",
      "0WILTED FLOWER|0DRUM WITH DRUMSTICKS|0CLINKING GLASSES|0TUMBLER GLASS|0SPOON|0GOAL NET",
      "0RIFLE|0FIRST PLACE MEDAL|0SECOND PLACE MEDAL|0THIRD PLACE MEDAL|0BOXING GLOVE",
      "0MARTIAL ARTS UNIFORM|0CURLING STONE|0LACROSSE STICK AND BALL|0SOFTBALL|0FLYING DISC",
      "0CROISSANT|0AVOCADO|0CUCUMBER|0BACON|0POTATO|0CARROT|0BAGUETTE BREAD|0GREEN SALAD",
      "0SHALLOW PAN OF FOOD|0STUFFED FLATBREAD|0EGG|0GLASS OF MILK|0PEANUTS|0KIWIFRUIT",
      "0PANCAKES|0DUMPLING|0FORTUNE COOKIE|0TAKEOUT BOX|0CHOPSTICKS|0BOWL WITH SPOON",
      "0CUP WITH STRAW|0COCONUT|0BROCCOLI|0PIE|0PRETZEL|0CUT OF MEAT|0SANDWICH|0CANNED FOOD",
      "0LEAFY GREEN|0MANGO|0MOON CAKE|0BAGEL|0SMILING FACE WITH SMILING EYES AND THREE HEARTS",
      "0YAWNING FACE|0SMILING FACE WITH TEAR|0FACE WITH PARTY HORN AND PARTY HAT",
      "2UNEVEN EYES AND WAVY MOUTH|0OVERHEATED FACE|0FREEZING FACE|0NINJA|0DISGUISED FACE",
      "0FACE HOLDING BACK TEARS|1WITH PLEADING EYES|0SARI|0LAB COAT|0GOGGLES|0HIKING BOOT",
      "0FLAT SHOE|0CRAB|0LION FACE|0SCORPION|0TURKEY|0UNICORN FACE|0EAGLE|0DUCK|0BAT|0SHARK",
      "0OWL|0FOX FACE|0BUTTERFLY|0DEER|0GORILLA|0LIZARD|0RHINOCEROS|0SHRIMP|0SQUID",
      "0GIRAFFE FACE|0ZEBRA FACE|0HEDGEHOG|0SAUROPOD|0T-REX|0CRICKET|0KANGAROO|0LLAMA|0PEACOCK",
      "0HIPPOPOTAMUS|0PARROT|0RACCOON|0LOBSTER|0MOSQUITO|0MICROBE|0BADGER|0SWAN|0MAMMOTH|0DODO",
      "0SLOTH|0OTTER|0ORANGUTAN|0SKUNK|0FLAMINGO|0OYSTER|0BEAVER|0BISON|0SEAL|0GUIDE DOG",
      "0PROBING CANE|0EMOJI COMPONENT RED HAIR|2CURLY HAIR|2BALD|2WHITE HAIR|0BONE|0LEG|0FOOT",
      "0TOOTH|0SUPERHERO|0SUPERVILLAIN|0SAFETY VEST|0EAR WITH HEARING AID|0MOTORIZED WHEELCHAIR",
      "0MANUAL WHEELCHAIR|0MECHANICAL ARM|1LEG|0CHEESE WEDGE|0CUPCAKE|0SALT SHAKER",
      "0BEVERAGE BOX|0GARLIC|0ONION|0FALAFEL|0WAFFLE|0BUTTER|0MATE DRINK|0ICE CUBE|0BUBBLE TEA",
      "0TROLL|0STANDING PERSON|0KNEELING PERSON|0DEAF PERSON|0FACE WITH MONOCLE|0ADULT|0CHILD",
      "0OLDER ADULT|0BEARDED PERSON|0PERSON WITH HEADSCARF|1IN STEAMY ROOM|1CLIMBING",
      "1IN LOTUS POSITION|0MAGE|0FAIRY|0VAMPIRE|0MERPERSON|0ELF|0GENIE|0ZOMBIE|0BRAIN",
      "0ORANGE HEART|0BILLED CAP|0SCARF|0GLOVES|0COAT|0SOCKS|0RED GIFT ENVELOPE|0FIRECRACKER",
      "0JIGSAW PUZZLE PIECE|0TEST TUBE|0PETRI DISH|0DNA DOUBLE HELIX|0COMPASS|0ABACUS",
      "0FIRE EXTINGUISHER|0TOOLBOX|0BRICK|0MAGNET|0LUGGAGE|0LOTION BOTTLE|0SPOOL OF THREAD",
      "0BALL OF YARN|0SAFETY PIN|0TEDDY BEAR|0BROOM|0BASKET|0ROLL OF PAPER|0BAR OF SOAP|0SPONGE",
      "0RECEIPT|0NAZAR AMULET|0NEUTRAL CHESS KING|2QUEEN|2ROOK|2BISHOP|2KNIGHT|2PAWN",
      "0WHITE CHESS KNIGHT ROTATED FORTY-FIVE DEGREES",
      "0BLACK CHESS KNIGHT ROTATED FORTY-FIVE DEGREES",
      "0NEUTRAL CHESS KNIGHT ROTATED FORTY-FIVE DEGREES",
      "0WHITE CHESS KING ROTATED NINETY DEGREES|2QUEEN ROTATED NINETY DEGREES",
      "2ROOK ROTATED NINETY DEGREES|2BISHOP ROTATED NINETY DEGREES",
      "2KNIGHT ROTATED NINETY DEGREES|2PAWN ROTATED NINETY DEGREES",
      "0BLACK CHESS KING ROTATED NINETY DEGREES|2QUEEN ROTATED NINETY DEGREES",
      "2ROOK ROTATED NINETY DEGREES|2BISHOP ROTATED NINETY DEGREES",
      "2KNIGHT ROTATED NINETY DEGREES|2PAWN ROTATED NINETY DEGREES",
      "0NEUTRAL CHESS KING ROTATED NINETY DEGREES|2QUEEN ROTATED NINETY DEGREES",
      "2ROOK ROTATED NINETY DEGREES|2BISHOP ROTATED NINETY DEGREES",
      "2KNIGHT ROTATED NINETY DEGREES|2PAWN ROTATED NINETY DEGREES",
      "0WHITE CHESS KNIGHT ROTATED ONE HUNDRED THIRTY-FIVE DEGREES",
      "0BLACK CHESS KNIGHT ROTATED ONE HUNDRED THIRTY-FIVE DEGREES",
      "0NEUTRAL CHESS KNIGHT ROTATED ONE HUNDRED THIRTY-FIVE DEGREES|0WHITE CHESS TURNED KING",
      "3QUEEN|3ROOK|3BISHOP|3KNIGHT|3PAWN|0BLACK CHESS TURNED KING|3QUEEN|3ROOK|3BISHOP|3KNIGHT",
      "3PAWN|0NEUTRAL CHESS TURNED KING|3QUEEN|3ROOK|3BISHOP|3KNIGHT|3PAWN",
      "0WHITE CHESS KNIGHT ROTATED TWO HUNDRED TWENTY-FIVE DEGREES",
      "0BLACK CHESS KNIGHT ROTATED TWO HUNDRED TWENTY-FIVE DEGREES",
      "0NEUTRAL CHESS KNIGHT ROTATED TWO HUNDRED TWENTY-FIVE DEGREES",
      "0WHITE CHESS KING ROTATED TWO HUNDRED SEVENTY DEGREES",
      "2QUEEN ROTATED TWO HUNDRED SEVENTY DEGREES|2ROOK ROTATED TWO HUNDRED SEVENTY DEGREES",
      "2BISHOP ROTATED TWO HUNDRED SEVENTY DEGREES|2KNIGHT ROTATED TWO HUNDRED SEVENTY DEGREES",
      "2PAWN ROTATED TWO HUNDRED SEVENTY DEGREES",
      "0BLACK CHESS KING ROTATED TWO HUNDRED SEVENTY DEGREES",
      "2QUEEN ROTATED TWO HUNDRED SEVENTY DEGREES|2ROOK ROTATED TWO HUNDRED SEVENTY DEGREES",
      "2BISHOP ROTATED TWO HUNDRED SEVENTY DEGREES|2KNIGHT ROTATED TWO HUNDRED SEVENTY DEGREES",
      "2PAWN ROTATED TWO HUNDRED SEVENTY DEGREES",
      "0NEUTRAL CHESS KING ROTATED TWO HUNDRED SEVENTY DEGREES",
      "2QUEEN ROTATED TWO HUNDRED SEVENTY DEGREES|2ROOK ROTATED TWO HUNDRED SEVENTY DEGREES",
      "2BISHOP ROTATED TWO HUNDRED SEVENTY DEGREES|2KNIGHT ROTATED TWO HUNDRED SEVENTY DEGREES",
      "2PAWN ROTATED TWO HUNDRED SEVENTY DEGREES",
      "0WHITE CHESS KNIGHT ROTATED THREE HUNDRED FIFTEEN DEGREES",
      "0BLACK CHESS KNIGHT ROTATED THREE HUNDRED FIFTEEN DEGREES",
      "0NEUTRAL CHESS KNIGHT ROTATED THREE HUNDRED FIFTEEN DEGREES|0WHITE CHESS EQUIHOPPER",
      "0BLACK CHESS EQUIHOPPER|0NEUTRAL CHESS EQUIHOPPER",
      "0WHITE CHESS EQUIHOPPER ROTATED NINETY DEGREES",
      "0BLACK CHESS EQUIHOPPER ROTATED NINETY DEGREES",
      "0NEUTRAL CHESS EQUIHOPPER ROTATED NINETY DEGREES|0WHITE CHESS KNIGHT-QUEEN|2KNIGHT-ROOK",
      "2KNIGHT-BISHOP|0BLACK CHESS KNIGHT-QUEEN|2KNIGHT-ROOK|2KNIGHT-BISHOP"]⟩,
    ⟨0x1FA60, [
      "0XIANGQI RED GENERAL|2MANDARIN|2ELEPHANT|2HORSE|2CHARIOT|2CANNON|2SOLDIER|1BLACK GENERAL",
      "2MANDARIN|2ELEPHANT|2HORSE|2CHARIOT|2CANNON|2SOLDIER|||0BALLET SHOES|0ONE-PIECE SWIMSUIT",
      "0BRIEFS|0SHORTS|0THONG SANDAL||||0DROP OF BLOOD|0ADHESIVE BANDAGE|0STETHOSCOPE|0X-RAY",
      "0CRUTCH||||0YO-YO|0KITE|0PARACHUTE|0BOOMERANG|0MAGIC WAND|0PINATA|0NESTING DOLLS"]⟩,
    ⟨0x1FA90, [
      "0RINGED PLANET|0CHAIR|0RAZOR|0AXE|0DIYA LAMP|0BANJO|0MILITARY HELMET|0ACCORDION",
      "0LONG DRUM|0COIN|0CARPENTRY SAW|0SCREWDRIVER|0LADDER|0HOOK|0MIRROR|0WINDOW|0PLUNGER",
      "0SEWING NEEDLE|0KNOT|0BUCKET|0MOUSE TRAP|0TOOTHBRUSH|0HEADSTONE|0PLACARD|0ROCK",
      "0MIRROR BALL|0IDENTIFICATION CARD|0LOW BATTERY|0HAMSA||||0FLY|0WORM|0BEETLE|0COCKROACH",
      "0POTTED PLANT|0WOOD|0FEATHER|0LOTUS|0CORAL|0EMPTY NEST|0NEST WITH EGGS"]⟩,
    ⟨0x1FAC0, [
      "0ANATOMICAL HEART|0LUNGS|0PEOPLE HUGGING|0PREGNANT MAN|1PERSON|0PERSON WITH CROWN"]⟩,
    ⟨0x1FAD0, [
      "0BLUEBERRIES|0BELL PEPPER|0OLIVE|0FLATBREAD|0TAMALE|0FONDUE|0TEAPOT|0POURING LIQUID",
      "0BEANS|0JAR"]⟩,
    ⟨0x1FAE0, [
      "0MELTING FACE|0SALUTING FACE|0FACE WITH OPEN EYES AND HAND OVER MOUTH|2PEEKING EYE",
      "2DIAGONAL MOUTH|0DOTTED LINE FACE|0BITING LIP|0BUBBLES"]⟩,
    ⟨0x1FAF0, [
      "0HAND WITH INDEX FINGER AND THUMB CROSSED|0RIGHTWARDS HAND|0LEFTWARDS HAND",
      "0PALM DOWN HAND|1UP HAND|0INDEX POINTING AT THE VIEWER|0HEART HANDS"]⟩,
    ⟨0x1FB00, [
      "0BLOCK SEXTANT-1|1SEXTANT-2|1SEXTANT-12|1SEXTANT-3|1SEXTANT-13|1SEXTANT-23|1SEXTANT-123",
      "1SEXTANT-4|1SEXTANT-14|1SEXTANT-24|1SEXTANT-124|1SEXTANT-34|1SEXTANT-134|1SEXTANT-234",
      "1SEXTANT-1234|1SEXTANT-5|1SEXTANT-15|1SEXTANT-25|1SEXTANT-125|1SEXTANT-35|1SEXTANT-235",
      "1SEXTANT-1235|1SEXTANT-45|1SEXTANT-145|1SEXTANT-245|1SEXTANT-1245|1SEXTANT-345",
      "1SEXTANT-1345|1SEXTANT-2345|1SEXTANT-12345|1SEXTANT-6|1SEXTANT-16|1SEXTANT-26",
      "1SEXTANT-126|1SEXTANT-36|1SEXTANT-136|1SEXTANT-236|1SEXTANT-1236|1SEXTANT-46",
      "1SEXTANT-146|1SEXTANT-1246|1SEXTANT-346|1SEXTANT-1346|1SEXTANT-2346|1SEXTANT-12346",
      "1SEXTANT-56|1SEXTANT-156|1SEXTANT-256|1SEXTANT-1256|1SEXTANT-356|1SEXTANT-1356",
      "1SEXTANT-2356|1SEXTANT-12356|1SEXTANT-456|1SEXTANT-1456|1SEXTANT-2456|1SEXTANT-12456",
      "1SEXTANT-3456|1SEXTANT-13456|1SEXTANT-23456",
      "0LOWER LEFT BLOCK DIAGONAL LOWER MIDDLE LEFT TO LOWER CENTRE|9RIGHT",
      "4UPPER MIDDLE LEFT TO LOWER CENTRE|9RIGHT|5LEFT TO LOWER CENTRE",
      "1RIGHT BLOCK DIAGONAL UPPER MIDDLE LEFT TO UPPER CENTRE|9RIGHT",
      "4LOWER MIDDLE LEFT TO UPPER CENTRE|9RIGHT|5LEFT TO UPPER CENTRE",
      "5MIDDLE LEFT TO UPPER MIDDLE RIGHT|5CENTRE TO LOWER MIDDLE RIGHT",
      "5LEFT TO LOWER MIDDLE RIGHT|5CENTRE TO UPPER MIDDLE RIGHT|5LEFT TO UPPER MIDDLE RIGHT",
      "5CENTRE TO UPPER RIGHT|1LEFT BLOCK DIAGONAL UPPER CENTRE TO UPPER MIDDLE RIGHT",
      "5LEFT TO UPPER MIDDLE RIGHT|5CENTRE TO LOWER MIDDLE RIGHT|5LEFT TO LOWER MIDDLE RIGHT",
      "5CENTRE TO LOWER RIGHT|5MIDDLE LEFT TO LOWER MIDDLE RIGHT",
      "0UPPER RIGHT BLOCK DIAGONAL LOWER MIDDLE LEFT TO LOWER CENTRE|9RIGHT",
      "4UPPER MIDDLE LEFT TO LOWER CENTRE|9RIGHT|5LEFT TO LOWER CENTRE",
      "1LEFT BLOCK DIAGONAL UPPER MIDDLE LEFT TO UPPER CENTRE|9RIGHT",
      "4LOWER MIDDLE LEFT TO UPPER CENTRE|9RIGHT|5LEFT TO UPPER CENTRE",
      "5MIDDLE LEFT TO UPPER MIDDLE RIGHT|5CENTRE TO LOWER MIDDLE RIGHT",
      "5LEFT TO LOWER MIDDLE RIGHT|5CENTRE TO UPPER MIDDLE RIGHT|5LEFT TO UPPER MIDDLE RIGHT",
      "5CENTRE TO UPPER RIGHT|1RIGHT BLOCK DIAGONAL UPPER CENTRE TO UPPER MIDDLE RIGHT",
      "5LEFT TO UPPER MIDDLE RIGHT|5CENTRE TO LOWER MIDDLE RIGHT|5LEFT TO LOWER MIDDLE RIGHT",
      "5CENTRE TO LOWER RIGHT|5MIDDLE LEFT TO LOWER MIDDLE RIGHT",
      "1AND RIGHT AND LOWER TRIANGULAR THREE QUARTERS BLOCK",
      "0LEFT AND LOWER AND RIGHT TRIANGULAR THREE QUARTERS BLOCK",
      "0UPPER AND LEFT AND LOWER TRIANGULAR THREE QUARTERS BLOCK",
      "0LEFT AND UPPER AND RIGHT TRIANGULAR THREE QUARTERS BLOCK|1TRIANGULAR ONE QUARTER BLOCK",
      "0UPPER TRIANGULAR ONE QUARTER BLOCK|0RIGHT TRIANGULAR ONE QUARTER BLOCK",
      "0LOWER TRIANGULAR ONE QUARTER BLOCK|0VERTICAL ONE EIGHTH BLOCK-2|3BLOCK-3|3BLOCK-4",
      "3BLOCK-5|3BLOCK-6|3BLOCK-7|0HORIZONTAL ONE EIGHTH BLOCK-2|3BLOCK-3|3BLOCK-4|3BLOCK-5",
      "3BLOCK-6|3BLOCK-7|0LEFT AND LOWER ONE EIGHTH BLOCK|2UPPER ONE EIGHTH BLOCK",
      "0RIGHT AND UPPER ONE EIGHTH BLOCK|2LOWER ONE EIGHTH BLOCK",
      "0UPPER AND LOWER ONE EIGHTH BLOCK|0HORIZONTAL ONE EIGHTH BLOCK-1358",
      "0UPPER ONE QUARTER BLOCK|1THREE EIGHTHS BLOCK|1FIVE EIGHTHS BLOCK|1THREE QUARTERS BLOCK",
      "1SEVEN EIGHTHS BLOCK|0RIGHT ONE QUARTER BLOCK|1THREE EIGHTHS BLOCK|1FIVE EIGHTHS BLOCK",
      "1THREE QUARTERS BLOCK|1SEVEN EIGHTHS BLOCK|0LEFT HALF MEDIUM SHADE",
      "0RIGHT HALF MEDIUM SHADE|0UPPER HALF MEDIUM SHADE|0LOWER HALF MEDIUM SHADE",
      "0INVERSE MEDIUM SHADE|0UPPER HALF BLOCK AND LOWER HALF INVERSE MEDIUM SHADE",
      "2INVERSE MEDIUM SHADE AND LOWER HALF BLOCK|",
      "0LEFT HALF INVERSE MEDIUM SHADE AND RIGHT HALF BLOCK|0CHECKER BOARD FILL",
      "0INVERSE CHECKER BOARD FILL|0HEAVY HORIZONTAL FILL|0UPPER LEFT TO LOWER RIGHT FILL",
      "1RIGHT TO LOWER LEFT FILL|1AND LOWER TRIANGULAR HALF BLOCK",
      "0LEFT AND RIGHT TRIANGULAR HALF BLOCK|0UPPER LEFT TRIANGULAR MEDIUM SHADE",
      "1RIGHT TRIANGULAR MEDIUM SHADE|0LOWER RIGHT TRIANGULAR MEDIUM SHADE",
      "1LEFT TRIANGULAR MEDIUM SHADE|0BOX DRAWINGS LIGHT DIAGONAL UPPER CENTRE TO MIDDLE LEFT",
      "8RIGHT|4MIDDLE LEFT TO LOWER CENTRE|5RIGHT TO LOWER CENTRE",
      "4UPPER CENTRE TO MIDDLE LEFT TO LOWER CENTRE|8RIGHT TO LOWER CENTRE",
      "4MIDDLE LEFT TO LOWER CENTRE TO MIDDLE RIGHT|7UPPER CENTRE TO MIDDLE RIGHT",
      "4UPPER CENTRE TO MIDDLE LEFT AND MIDDLE RIGHT TO LOWER CENTRE",
      "8RIGHT AND MIDDLE LEFT TO LOWER CENTRE|9TO LOWER CENTRE TO MIDDLE LEFT",
      "8LEFT TO LOWER CENTRE TO MIDDLE RIGHT",
      "4MIDDLE LEFT TO UPPER CENTRE TO MIDDLE RIGHT TO LOWER CENTRE",
      "5RIGHT TO UPPER CENTRE TO MIDDLE LEFT TO LOWER CENTRE|4DIAMOND",
      "3HORIZONTAL WITH VERTICAL STROKE|0ARROWHEAD-SHAPED POINTER|0INVERSE CHECK MARK",
      "0LEFT HALF RUNNING MAN|0RIGHT HALF RUNNING MAN",
      "0INVERSE DOWNWARDS ARROW WITH TIP LEFTWARDS",
      "0LEFTWARDS ARROW AND UPPER AND LOWER ONE EIGHTH BLOCK",
      "0RIGHTWARDS ARROW AND UPPER AND LOWER ONE EIGHTH BLOCK",
      "0DOWNWARDS ARROW AND RIGHT ONE EIGHTH BLOCK|0UPWARDS ARROW AND RIGHT ONE EIGHTH BLOCK",
      "0LEFT HALF FOLDER|0RIGHT HALF FOLDER|0VOIDED GREEK CROSS|0RIGHT OPEN SQUARED DOT",
      "0NEGATIVE DIAGONAL CROSS|2MIDDLE RIGHT TO LOWER CENTRE|2DIAMOND",
      "0WHITE HEAVY SALTIRE WITH ROUNDED CORNERS|0LEFT THIRD WHITE RIGHT POINTING INDEX",
      "0MIDDLE THIRD WHITE RIGHT POINTING INDEX|0RIGHT THIRD WHITE RIGHT POINTING INDEX",
      "0NEGATIVE SQUARED QUESTION MARK|0STICK FIGURE|2WITH ARMS RAISED|2LEANING LEFT|3RIGHT",
      "2WITH DRESS|0WHITE UP-POINTING CHEVRON"]⟩,
    ⟨0x1FBF0, ["0SEGMENTED DIGIT ZERO|2ONE|2TWO|2THREE|2FOUR|2FIVE|2SIX|2SEVEN|2EIGHT|2NINE"]⟩
  ]

/-- Tags and variation selectors. -/
def tagNames : List NameRun :=
  [
    ⟨0xE0001, ["0LANGUAGE TAG"]⟩,
    ⟨0xE0020, [
      "0TAG SPACE|1EXCLAMATION MARK|1QUOTATION MARK|1NUMBER SIGN|1DOLLAR SIGN|1PERCENT SIGN",
      "1AMPERSAND|1APOSTROPHE|1LEFT PARENTHESIS|1RIGHT PARENTHESIS|1ASTERISK|1PLUS SIGN|1COMMA",
      "1HYPHEN-MINUS|1FULL STOP|1SOLIDUS|1DIGIT ZERO|2ONE|2TWO|2THREE|2FOUR|2FIVE|2SIX|2SEVEN",
      "2EIGHT|2NINE|1COLON|1SEMICOLON|1LESS-THAN SIGN|1EQUALS SIGN|1GREATER-THAN SIGN",
      "1QUESTION MARK|1COMMERCIAL AT|1LATIN CAPITAL LETTER A|4B|4C|4D|4E|4F|4G|4H|4I|4J|4K|4L",
      "4M|4N|4O|4P|4Q|4R|4S|4T|4U|4V|4W|4X|4Y|4Z|1LEFT SQUARE BRACKET|1REVERSE SOLIDUS",
      "1RIGHT SQUARE BRACKET|1CIRCUMFLEX ACCENT|1LOW LINE|1GRAVE ACCENT|1LATIN SMALL LETTER A",
      "4B|4C|4D|4E|4F|4G|4H|4I|4J|4K|4L|4M|4N|4O|4P|4Q|4R|4S|4T|4U|4V|4W|4X|4Y|4Z",
      "1LEFT CURLY BRACKET|1VERTICAL LINE|1RIGHT CURLY BRACKET|1TILDE|0CANCEL TAG"]⟩,
    ⟨0xE0100, [
      "0VARIATION SELECTOR-17|1SELECTOR-18|1SELECTOR-19|1SELECTOR-20|1SELECTOR-21|1SELECTOR-22",
      "1SELECTOR-23|1SELECTOR-24|1SELECTOR-25|1SELECTOR-26|1SELECTOR-27|1SELECTOR-28",
      "1SELECTOR-29|1SELECTOR-30|1SELECTOR-31|1SELECTOR-32|1SELECTOR-33|1SELECTOR-34",
      "1SELECTOR-35|1SELECTOR-36|1SELECTOR-37|1SELECTOR-38|1SELECTOR-39|1SELECTOR-40",
      "1SELECTOR-41|1SELECTOR-42|1SELECTOR-43|1SELECTOR-44|1SELECTOR-45|1SELECTOR-46",
      "1SELECTOR-47|1SELECTOR-48|1SELECTOR-49|1SELECTOR-50|1SELECTOR-51|1SELECTOR-52",
      "1SELECTOR-53|1SELECTOR-54|1SELECTOR-55|1SELECTOR-56|1SELECTOR-57|1SELECTOR-58",
      "1SELECTOR-59|1SELECTOR-60|1SELECTOR-61|1SELECTOR-62|1SELECTOR-63|1SELECTOR-64",
      "1SELECTOR-65|1SELECTOR-66|1SELECTOR-67|1SELECTOR-68|1SELECTOR-69|1SELECTOR-70",
      "1SELECTOR-71|1SELECTOR-72|1SELECTOR-73|1SELECTOR-74|1SELECTOR-75|1SELECTOR-76",
      "1SELECTOR-77|1SELECTOR-78|1SELECTOR-79|1SELECTOR-80|1SELECTOR-81|1SELECTOR-82",
      "1SELECTOR-83|1SELECTOR-84|1SELECTOR-85|1SELECTOR-86|1SELECTOR-87|1SELECTOR-88",
      "1SELECTOR-89|1SELECTOR-90|1SELECTOR-91|1SELECTOR-92|1SELECTOR-93|1SELECTOR-94",
      "1SELECTOR-95|1SELECTOR-96|1SELECTOR-97|1SELECTOR-98|1SELECTOR-99|1SELECTOR-100",
      "1SELECTOR-101|1SELECTOR-102|1SELECTOR-103|1SELECTOR-104|1SELECTOR-105|1SELECTOR-106",
      "1SELECTOR-107|1SELECTOR-108|1SELECTOR-109|1SELECTOR-110|1SELECTOR-111|1SELECTOR-112",
      "1SELECTOR-113|1SELECTOR-114|1SELECTOR-115|1SELECTOR-116|1SELECTOR-117|1SELECTOR-118",
      "1SELECTOR-119|1SELECTOR-120|1SELECTOR-121|1SELECTOR-122|1SELECTOR-123|1SELECTOR-124",
      "1SELECTOR-125|1SELECTOR-126|1SELECTOR-127|1SELECTOR-128|1SELECTOR-129|1SELECTOR-130",
      "1SELECTOR-131|1SELECTOR-132|1SELECTOR-133|1SELECTOR-134|1SELECTOR-135|1SELECTOR-136",
      "1SELECTOR-137|1SELECTOR-138|1SELECTOR-139|1SELECTOR-140|1SELECTOR-141|1SELECTOR-142",
      "1SELECTOR-143|1SELECTOR-144|1SELECTOR-145|1SELECTOR-146|1SELECTOR-147|1SELECTOR-148",
      "1SELECTOR-149|1SELECTOR-150|1SELECTOR-151|1SELECTOR-152|1SELECTOR-153|1SELECTOR-154",
      "1SELECTOR-155|1SELECTOR-156|1SELECTOR-157|1SELECTOR-158|1SELECTOR-159|1SELECTOR-160",
      "1SELECTOR-161|1SELECTOR-162|1SELECTOR-163|1SELECTOR-164|1SELECTOR-165|1SELECTOR-166",
      "1SELECTOR-167|1SELECTOR-168|1SELECTOR-169|1SELECTOR-170|1SELECTOR-171|1SELECTOR-172",
      "1SELECTOR-173|1SELECTOR-174|1SELECTOR-175|1SELECTOR-176|1SELECTOR-177|1SELECTOR-178",
      "1SELECTOR-179|1SELECTOR-180|1SELECTOR-181|1SELECTOR-182|1SELECTOR-183|1SELECTOR-184",
      "1SELECTOR-185|1SELECTOR-186|1SELECTOR-187|1SELECTOR-188|1SELECTOR-189|1SELECTOR-190",
      "1SELECTOR-191|1SELECTOR-192|1SELECTOR-193|1SELECTOR-194|1SELECTOR-195|1SELECTOR-196",
      "1SELECTOR-197|1SELECTOR-198|1SELECTOR-199|1SELECTOR-200|1SELECTOR-201|1SELECTOR-202",
      "1SELECTOR-203|1SELECTOR-204|1SELECTOR-205|1SELECTOR-206|1SELECTOR-207|1SELECTOR-208",
      "1SELECTOR-209|1SELECTOR-210|1SELECTOR-211|1SELECTOR-212|1SELECTOR-213|1SELECTOR-214",
      "1SELECTOR-215|1SELECTOR-216|1SELECTOR-217|1SELECTOR-218|1SELECTOR-219|1SELECTOR-220",
      "1SELECTOR-221|1SELECTOR-222|1SELECTOR-223|1SELECTOR-224|1SELECTOR-225|1SELECTOR-226",
      "1SELECTOR-227|1SELECTOR-228|1SELECTOR-229|1SELECTOR-230|1SELECTOR-231|1SELECTOR-232",
      "1SELECTOR-233|1SELECTOR-234|1SELECTOR-235|1SELECTOR-236|1SELECTOR-237|1SELECTOR-238",
      "1SELECTOR-239|1SELECTOR-240|1SELECTOR-241|1SELECTOR-242|1SELECTOR-243|1SELECTOR-244",
      "1SELECTOR-245|1SELECTOR-246|1SELECTOR-247|1SELECTOR-248|1SELECTOR-249|1SELECTOR-250",
      "1SELECTOR-251|1SELECTOR-252|1SELECTOR-253|1SELECTOR-254|1SELECTOR-255|1SELECTOR-256"]⟩
  ]

end LineGrammar.Text
